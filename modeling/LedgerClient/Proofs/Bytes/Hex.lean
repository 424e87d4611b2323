import LedgerClient.Bytes.Hex
import Mathlib.Tactic.Common

/-!
Hexadecimal digits stand for the numbers that they were made of, and their text gives back the
bytes.
-/

namespace LedgerClient

namespace Text

lemma hexDigit?_hexDigitChar {n : Nat} (h : n < 16) : hexDigit? (hexDigitChar n) = some n := by
  have hall : ∀ m : Fin 16, hexDigit? (hexDigitChar m) = some m.val := by decide +kernel
  exact hall ⟨n, h⟩

lemma hexDigits_two (n : Nat) :
    hexDigits 2 n = [hexDigitChar (n / 16 % 16), hexDigitChar (n % 16)] := rfl

lemma hexDigits_four (n : Nat) :
    hexDigits 4 n = hexDigits 2 (n / 256) ++ hexDigits 2 n := by
  simp [hexDigits, Nat.div_div_eq_div_mul]

lemma isAsciiBlank_hexDigitChar {n : Nat} (h : n < 16) :
    isAsciiBlank (hexDigitChar n) = false := by
  have hall : ∀ m : Fin 16, isAsciiBlank (hexDigitChar m) = false := by decide +kernel
  exact hall ⟨n, h⟩

end Text

namespace Hex

open Text

lemma pair?_hexDigits (b : UInt8) :
    pair? (hexDigitChar (b.toNat / 16 % 16)) (hexDigitChar (b.toNat % 16)) = some b := by
  have hb : b.toNat < 256 := b.toNat_lt
  have hn : b.toNat / 16 % 16 * 16 + b.toNat % 16 = b.toNat := by omega
  simp only [pair?, hexDigit?_hexDigitChar (Nat.mod_lt _ (by decide : 16 > 0)), bind,
    Option.bind, hn, UInt8.ofNat_toNat]
  rfl

lemma decodeChars_encode (bs : Bytes) :
    decodeChars (bs.flatMap fun b => hexDigits 2 b.toNat) = some bs := by
  induction bs with
  | nil => rfl
  | cons b bs ih =>
    rw [List.flatMap_cons, hexDigits_two, List.cons_append, List.cons_append, List.nil_append,
      decodeChars, isAsciiBlank_hexDigitChar (Nat.mod_lt _ (by decide)), pair?_hexDigits, ih]
    rfl

theorem decode_encode (bs : Bytes) : decode? (encode bs) = some bs := by
  rw [decode?, encode, String.toList_ofList, decodeChars_encode]

end Hex

end LedgerClient
