import LedgerClient.Bytes.Base58
import Mathlib.Data.List.Induction
import Mathlib.Tactic.Common

/-!
Numerals without leading zeros are told by their values, and base 58 text gives back the bytes that
it was made of, leading zeros included. Apart from blanks at the end no other text does.
-/

namespace LedgerClient

namespace Positional

variable {base : Nat} {ds : List Nat}

/-- By induction from the last digit: the ones before it have no leading zero either. -/
theorem digits_value (hb : 2 ≤ base) (hlt : ∀ d ∈ ds, d < base) (h0 : ds.head? ≠ some 0) :
    digits base (value base ds) = ds := by
  induction ds using List.reverseRecOn with
  | nil => exact digits_zero base
  | append_singleton ds d ih =>
    obtain ⟨hlt, hd⟩ := List.forall_mem_append.1 hlt
    have hd : d < base := hd d (List.mem_singleton_self d)
    have hdiv : (value base ds * base + d) / base = value base ds := by
      rw [Nat.mul_comm, Nat.mul_add_div (by omega), Nat.div_eq_of_lt hd, Nat.add_zero]
    have hmod : (value base ds * base + d) % base = d := by
      rw [Nat.mul_comm, Nat.mul_add_mod, Nat.mod_eq_of_lt hd]
    have hds : digits base (value base ds) = ds := by
      refine ih hlt fun hh => h0 ?_
      cases ds with
      | nil => cases hh
      | cons e ds => exact hh
    have hne : value base ds * base + d ≠ 0 := by
      intro hz
      cases ds with
      | nil =>
        have : d = 0 := by simpa [value] using hz
        exact h0 (by simp [this])
      | cons e ds =>
        have hv : value base (e :: ds) = 0 := by
          rcases Nat.mul_eq_zero.1 (Nat.eq_zero_of_add_eq_zero_right hz) with h | h <;> omega
        rw [hv, digits_zero] at hds
        cases hds
    rw [value_append_singleton, digits, dif_pos ⟨hb, hne⟩, hdiv, hmod, hds]

/-- A numeral does not start with a zero. -/
lemma head?_digits (base n : Nat) : (digits base n).head? ≠ some 0 := by
  induction n using Nat.strongRecOn with
  | ind n ih =>
    rw [digits]
    split
    · rename_i h
      have hlt := Nat.div_lt_self (Nat.pos_of_ne_zero h.2) h.1
      cases hd : digits base (n / base) with
      | nil =>
        -- without further digits the number is less than the base
        have hv := value_digits base (n / base) h.1
        rw [hd] at hv
        have hz : n / base = 0 := hv.symm
        have hmod : n % base = n := Nat.mod_eq_of_lt ((Nat.div_eq_zero_iff_lt (by omega)).1 hz)
        simp [hmod, h.2]
      | cons d ds =>
        have := ih _ hlt
        rw [hd] at this
        exact this
    · simp

end Positional

lemma Text.trimEnd_eq {cs : List Char} (h : ∀ c ∈ cs, isBlank c = false) : trimEnd cs = cs := by
  have hdrop : cs.reverse.dropWhile isBlank = cs.reverse := by
    cases hr : cs.reverse with
    | nil => rfl
    | cons c r =>
      have hc : c ∈ cs := List.mem_reverse.1 (hr ▸ List.mem_cons_self)
      rw [List.dropWhile_cons_of_neg (by simp [h c hc])]
  rw [trimEnd, hdrop, List.reverse_reverse]

namespace Text

lemma trimEnd_append {cs bs : List Char} (h : ∀ c ∈ bs, isBlank c = true) :
    trimEnd (cs ++ bs) = trimEnd cs := by
  have hblank : ∀ c ∈ bs.reverse, isBlank c = true := fun c hc => h c (List.mem_reverse.1 hc)
  rw [trimEnd, trimEnd, List.reverse_append, List.dropWhile_append_of_pos hblank]

lemma exists_trimEnd (cs : List Char) :
    ∃ bs, (∀ c ∈ bs, isBlank c = true) ∧ cs = trimEnd cs ++ bs := by
  refine ⟨(cs.reverse.takeWhile isBlank).reverse, fun c hc => ?_, ?_⟩
  · exact List.all_eq_true.1 List.all_takeWhile c (List.mem_reverse.1 hc)
  · have hsplit : cs.reverse.takeWhile isBlank ++ cs.reverse.dropWhile isBlank = cs.reverse :=
      List.takeWhile_append_dropWhile
    rw [trimEnd, ← List.reverse_append, hsplit, List.reverse_reverse]

end Text

namespace Bytes

lemma toNatBE_eq_value (bs : Bytes) :
    toNatBE bs = Positional.value 256 (bs.map UInt8.toNat) := by
  rw [toNatBE, Positional.value, List.foldl_map]

/-- Leading zeros do not count. -/
lemma toNatBE_dropWhile (bs : Bytes) : toNatBE (bs.dropWhile (· == 0)) = toNatBE bs := by
  induction bs with
  | nil => rfl
  | cons b bs ih =>
    by_cases hb : b = 0
    · rw [List.dropWhile_cons_of_pos (by simp [hb]), ih, hb]
      rfl
    · rw [List.dropWhile_cons_of_neg (by simp [hb])]

/-- Bytes without leading zeros are the digits of their number. -/
lemma digits_toNatBE {bs : Bytes} (h : bs.head? ≠ some 0) :
    (Positional.digits 256 (toNatBE bs)).map UInt8.ofNat = bs := by
  have hlt : ∀ d ∈ bs.map UInt8.toNat, d < 256 := by
    intro d hd
    obtain ⟨b, -, rfl⟩ := List.mem_map.1 hd
    exact b.toNat_lt
  have h0 : (bs.map UInt8.toNat).head? ≠ some 0 := by
    cases bs with
    | nil => simp
    | cons b bs =>
      intro hb
      exact h (congrArg some (UInt8.toNat_inj.1 (Option.some.inj hb)))
  have hid : UInt8.ofNat ∘ UInt8.toNat = id := funext fun b => UInt8.ofNat_toNat
  rw [toNatBE_eq_value, Positional.digits_value (by decide) hlt h0, List.map_map, hid, List.map_id]

/-- Leading zeros, and the digits of a number behind them: the zeros are all that lead. -/
lemma takeWhile_zeros_digits {α : Type} (zs : List α) (n : Nat) :
    (zs.map (fun _ => (0 : UInt8)) ++ (Positional.digits 256 n).map UInt8.ofNat).takeWhile
      (· == 0) = zs.map fun _ => 0 := by
  induction zs with
  | nil =>
    cases hd : Positional.digits 256 n with
    | nil => rfl
    | cons d ds =>
      have hlt : d < 256 := Positional.digits_lt 256 n d (by simp [hd])
      have hne : d ≠ 0 := fun hz => Positional.head?_digits 256 n (by simp [hd, hz])
      have hbyte : UInt8.ofNat d ≠ 0 := fun hz => by
        have hnat : d % 256 = 0 := by simpa [UInt8.toNat_ofNat'] using congrArg UInt8.toNat hz
        omega
      simp [hbyte]
  | cons z zs ih => simpa using ih

lemma toNatBE_zeros_digits {α : Type} (zs : List α) (n : Nat) :
    toNatBE (zs.map (fun _ => (0 : UInt8)) ++ (Positional.digits 256 n).map UInt8.ofNat) = n := by
  induction zs with
  | nil =>
    have hid : ∀ d ∈ Positional.digits 256 n, (UInt8.toNat ∘ UInt8.ofNat) d = id d := fun d hd => by
      have hlt := Positional.digits_lt 256 n d hd
      simp only [Function.comp, UInt8.toNat_ofNat', id]
      omega
    rw [List.map_nil, List.nil_append, toNatBE_eq_value, List.map_map, List.map_congr_left hid,
      List.map_id, Positional.value_digits 256 n (by decide)]
  | cons z zs ih => exact ih

end Bytes

namespace Base58

open Positional

/-- The digits stand for their places in the alphabet, `1` for the first of them; none is blank. -/
lemma digitChar_spec {d : Nat} (h : d < 58) : digit? (digitChar d) = some d ∧
    (digitChar d = '1' ↔ d = 0) ∧ Text.isBlank (digitChar d) = false ∧
    (digitChar d).toNat < 128 := by
  have hall : ∀ m : Fin 58, digit? (digitChar m) = some m.val ∧
      (digitChar m = '1' ↔ m.val = 0) ∧ Text.isBlank (digitChar m) = false ∧
      (digitChar m).toNat < 128 := by decide +kernel
  exact hall ⟨d, h⟩

lemma numeral_map_digitChar {ds : List Nat} (h : ∀ d ∈ ds, d < 58) :
    numeral (ds.map digitChar) = .ok ds := by
  induction ds with
  | nil => rfl
  | cons d ds ih =>
    obtain ⟨hd, hds⟩ := List.forall_mem_cons.1 h
    simp only [List.map_cons, numeral, (digitChar_spec hd).1, ih hds]
    rfl

lemma nonAscii?_eq_none {cs : List Char} (h : ∀ c ∈ cs, c.toNat < 128) : nonAscii? cs = none := by
  have hdrop : cs.dropWhile (fun c => c.toNat < 128) = [] := by
    induction cs with
    | nil => rfl
    | cons c cs ih =>
      obtain ⟨hc, hcs⟩ := List.forall_mem_cons.1 h
      simp only [List.dropWhile, hc, decide_true, ih hcs]
  rw [nonAscii?, hdrop]

/-- The numeral behind the ones does not start with another one. -/
lemma ones_append (zs : Bytes) {ds : List Nat} (hlt : ∀ d ∈ ds, d < 58) (h0 : ds.head? ≠ some 0) :
    (zs.map (fun _ => '1') ++ ds.map digitChar).takeWhile (· == '1') = zs.map (fun _ => '1') ∧
      (zs.map (fun _ => '1') ++ ds.map digitChar).dropWhile (· == '1') = ds.map digitChar := by
  induction zs with
  | nil =>
    cases ds with
    | nil => exact ⟨rfl, rfl⟩
    | cons d ds =>
      have hd : d ≠ 0 := fun h => h0 (congrArg some h)
      have h1 : (digitChar d == '1') = false :=
        beq_false_of_ne fun h => hd ((digitChar_spec (hlt d List.mem_cons_self)).2.1.1 h)
      rw [List.map_nil, List.nil_append, List.map_cons]
      exact ⟨List.takeWhile_cons_of_neg (by simp [h1]), List.dropWhile_cons_of_neg (by simp [h1])⟩
  | cons z zs ih =>
    rw [List.map_cons, List.cons_append, List.takeWhile_cons_of_pos rfl,
      List.dropWhile_cons_of_pos rfl, ih.1, ih.2]
    exact ⟨rfl, rfl⟩

/-- Leading zeros are counted, and the bytes behind them are told by their number. -/
theorem decode_encode (bs : Bytes) : decode (encode bs) = .ok bs := by
  set zs := bs.takeWhile (· == 0) with hzs
  set ds := digits 58 (Bytes.toNatBE bs) with hds
  have hlt : ∀ d ∈ ds, d < 58 := digits_lt 58 _
  have hchar : ∀ c ∈ zs.map (fun _ => '1') ++ ds.map digitChar,
      Text.isBlank c = false ∧ c.toNat < 128 := by
    intro c hc
    rcases List.mem_append.1 hc with h | h
    · obtain ⟨_, -, rfl⟩ := List.mem_map.1 h
      decide +kernel
    · obtain ⟨d, hd, rfl⟩ := List.mem_map.1 h
      exact (digitChar_spec (hlt d hd)).2.2
  have hends := Text.trimEnd_eq fun c hc => (hchar c hc).1
  have hascii := nonAscii?_eq_none fun c hc => (hchar c hc).2
  obtain ⟨htake, hdrop⟩ := ones_append zs hlt (head?_digits 58 _)
  have hzeros : (zs.map fun _ => '1').map (fun _ => (0 : UInt8)) = zs := by
    have hz : ∀ z ∈ zs, z = 0 := fun z hz =>
      beq_iff_eq.1 (List.all_eq_true.1 (List.all_takeWhile (p := (· == 0))) z hz)
    rw [List.map_map]
    exact (List.map_congr_left fun z h => (hz z h).symm).trans (List.map_id zs)
  have hrest : (digits 256 (Bytes.toNatBE bs)).map UInt8.ofNat = bs.dropWhile (· == 0) := by
    rw [← Bytes.toNatBE_dropWhile]
    refine Bytes.digits_toNatBE fun h0 => ?_
    have hnot := List.head?_dropWhile_not (· == 0) bs
    rw [h0] at hnot
    cases hnot
  have hval : value 58 ds = Bytes.toNatBE bs := value_digits 58 _ (by decide)
  have hbs : zs ++ bs.dropWhile (· == 0) = bs := List.takeWhile_append_dropWhile
  simp only [decode, encode, String.toList_ofList, ← hzs, ← hds, hends, hascii, htake, hdrop,
    numeral_map_digitChar hlt, hzeros, bind, Except.bind, hval, hrest, hbs]
  rfl

/-! ### Every text that is accepted -/

lemma length_alphabet : alphabet.length = 58 := by decide

lemma digitChar_eq_getElem {d : Nat} (h : d < alphabet.length) : digitChar d = alphabet[d] := by
  simp [digitChar, List.getD, h]

/-- A digit is the place of its character in the alphabet. -/
lemma digitChar_of_digit? {c : Char} {d : Nat} (h : digit? c = some d) :
    d < 58 ∧ digitChar d = c := by
  obtain ⟨hd, hc, -⟩ := List.findIdx?_eq_some_iff_getElem.1 h
  rw [digitChar_eq_getElem hd]
  exact ⟨length_alphabet ▸ hd, beq_iff_eq.1 hc⟩

lemma numeral_eq_ok {cs : List Char} {ds : List Nat} (h : numeral cs = .ok ds) :
    (∀ d ∈ ds, d < 58) ∧ cs = ds.map digitChar := by
  induction cs generalizing ds with
  | nil =>
    cases h
    simp
  | cons c cs ih =>
    rw [numeral] at h
    cases hc : digit? c with
    | none => simp [hc] at h
    | some d =>
      simp only [hc] at h
      cases hn : numeral cs with
      | error f =>
        rw [hn] at h
        cases h
      | ok es =>
        rw [hn] at h
        cases h
        obtain ⟨hd, hchar⟩ := digitChar_of_digit? hc
        obtain ⟨hes, hcs⟩ := ih hn
        exact ⟨List.forall_mem_cons.2 ⟨hd, hes⟩, by rw [List.map_cons, hchar, ← hcs]⟩

lemma mem_alphabet_of_mem_encode {bs : Bytes} {c : Char} (h : c ∈ (encode bs).toList) :
    c ∈ alphabet := by
  rw [encode, String.toList_ofList] at h
  rcases List.mem_append.1 h with h | h
  · obtain ⟨-, -, rfl⟩ := List.mem_map.1 h
    decide
  · obtain ⟨d, hd, rfl⟩ := List.mem_map.1 h
    have hlt : d < alphabet.length := length_alphabet ▸ digits_lt 58 _ d hd
    rw [digitChar_eq_getElem hlt]
    exact List.getElem_mem hlt

/-- What was decoded is written with the same ones and digits, whatever blanks were behind them. -/
lemma encode_of_decode {s : String} {bs : Bytes} (h : decode s = .ok bs) :
    (encode bs).toList = Text.trimEnd s.toList := by
  unfold decode at h
  generalize Text.trimEnd s.toList = cs at h ⊢
  cases ha : nonAscii? cs with
  | some f => simp [ha] at h
  | none =>
    cases hn : numeral (cs.dropWhile (· == '1')) with
    | error f => simp [ha, hn, bind, Except.bind] at h
    | ok ds =>
      simp only [ha, hn, bind, Except.bind, pure, Except.pure] at h
      obtain rfl := (Except.ok.inj h).symm
      obtain ⟨hlt, hdrop⟩ := numeral_eq_ok hn
      have h0 : ds.head? ≠ some 0 := fun hz => by
        have hnot := List.head?_dropWhile_not (· == '1') cs
        rw [hdrop, List.head?_map, hz] at hnot
        exact Bool.noConfusion hnot
      rw [encode, String.toList_ofList, Bytes.takeWhile_zeros_digits,
        Bytes.toNatBE_zeros_digits, digits_value (by decide) hlt h0, ← hdrop, List.map_map]
      have hones : cs.takeWhile (· == '1') = (cs.takeWhile (· == '1')).map fun _ => '1' := by
        have hall : ∀ c ∈ cs.takeWhile (· == '1'), c = '1' := fun c hc =>
          beq_iff_eq.1 (List.all_eq_true.1 (List.all_takeWhile (p := (· == '1'))) c hc)
        exact (List.map_id _).symm.trans (List.map_congr_left hall)
      calc (cs.takeWhile (· == '1')).map (fun _ => '1') ++ cs.dropWhile (· == '1')
          = cs.takeWhile (· == '1') ++ cs.dropWhile (· == '1') := by rw [← hones]
        _ = cs := List.takeWhile_append_dropWhile

/-- **Base 58 has one spelling of each byte string, apart from blanks behind it.** -/
theorem decode_eq_ok_iff {s : String} {bs : Bytes} : decode s = .ok bs ↔
    ∃ blanks, (∀ c ∈ blanks, Text.isBlank c = true) ∧
      s.toList = (encode bs).toList ++ blanks := by
  constructor
  · intro h
    obtain ⟨blanks, hblank, hs⟩ := Text.exists_trimEnd s.toList
    exact ⟨blanks, hblank, by rw [encode_of_decode h, ← hs]⟩
  · rintro ⟨blanks, hblank, hs⟩
    have hends : Text.trimEnd s.toList = Text.trimEnd (encode bs).toList := by
      rw [hs, Text.trimEnd_append hblank]
    rw [← decode_encode bs, decode, decode, hends]

end Base58

end LedgerClient
