import LedgerClient.Proofs.Account.Grammar
import LedgerClient.Proofs.Seed.Words
import LedgerClient.Proofs.Text.Numeral
import LedgerClient.Seed.Phrase

/-!
Entropy and its phrase. The digits in base 2048 of entropy and check bits are read back to the same
entropy, and no other digits are read.
-/

namespace LedgerClient

/-! ### Numerals of a fixed width -/

namespace Positional

variable {base : Nat}

lemma fixed_lt (hb : 0 < base) (width n : Nat) : ∀ d ∈ fixed base width n, d < base := by
  induction width generalizing n with
  | zero => simp [fixed]
  | succ width ih =>
    rw [fixed]
    exact List.forall_mem_append.2 ⟨ih _, fun d hd => List.mem_singleton.1 hd ▸ Nat.mod_lt _ hb⟩

/-- Digits are those of their value. -/
lemma fixed_value {ds : List Nat} (h : ∀ d ∈ ds, d < base) :
    fixed base ds.length (value base ds) = ds := by
  induction ds using List.reverseRecOn with
  | nil => rfl
  | append_singleton ds d ih =>
    obtain ⟨hds, hd⟩ := List.forall_mem_append.1 h
    have hd : d < base := hd d (List.mem_singleton_self d)
    have hdiv : (value base ds * base + d) / base = value base ds := by
      rw [Nat.mul_comm, Nat.mul_add_div (by omega), Nat.div_eq_of_lt hd, Nat.add_zero]
    have hmod : (value base ds * base + d) % base = d := by
      rw [Nat.mul_comm, Nat.mul_add_mod, Nat.mod_eq_of_lt hd]
    rw [List.length_append, List.length_singleton, fixed, value_append_singleton, hdiv, hmod,
      ih hds]

end Positional

namespace Bytes

lemma toNatBE_reverse (bs : Bytes) : toNatBE bs.reverse = toNatLE bs := by
  induction bs with
  | nil => rfl
  | cons b bs ih =>
    have hstep : toNatBE (bs.reverse ++ [b]) = toNatBE bs.reverse * 256 + b.toNat := by
      simp only [toNatBE, List.foldl_append, List.foldl_cons, List.foldl_nil]
    rw [List.reverse_cons, hstep, ih, toNatLE]
    omega

lemma toNatBE_eq (bs : Bytes) : toNatBE bs = toNatLE bs.reverse := by
  rw [← toNatBE_reverse, List.reverse_reverse]

lemma toNatBE_lt (bs : Bytes) : toNatBE bs < 256 ^ bs.length := by
  have h := toNatLE_lt bs.reverse
  rwa [← toNatBE_eq, List.length_reverse] at h

lemma toNatBE_ofNatBE (width n : Nat) : toNatBE (ofNatBE width n) = n % 256 ^ width := by
  rw [ofNatBE, toNatBE_reverse, toNatLE_ofNatLE, Nat.pow_eq]

lemma ofNatBE_toNatBE (bs : Bytes) : ofNatBE bs.length (toNatBE bs) = bs := by
  rw [ofNatBE, toNatBE_eq, ← List.length_reverse, ofNatLE_toNatLE, List.reverse_reverse]

end Bytes

namespace Seed

/-! ### Entropy and its digits -/

/-- As many bytes as some phrase holds. -/
def Sized (e : Bytes) : Prop := e.length ∈ [16, 20, 24, 28, 32]

/-- The places of the words for some entropy. -/
def indexes (e : Bytes) : List Nat :=
  Positional.fixed 2048 (3 * (e.length / 4))
    (Bytes.toNatBE e * 2 ^ (e.length / 4) + checksum e (e.length / 4))

variable {b : Nat} {e : Bytes} {is : List Nat}

lemma ofEntropy_eq (e : Bytes) : ofEntropy e = " ".intercalate ((indexes e).map wordAt) := rfl

lemma indexes_lt (e : Bytes) : ∀ i ∈ indexes e, i < 2048 :=
  Positional.fixed_lt (by decide) _ _

lemma length_indexes (e : Bytes) : (indexes e).length = 3 * (e.length / 4) :=
  Positional.length_fixed _ _ _

lemma checksum_lt (e : Bytes) (hb : b ≤ 8) : checksum e b < 2 ^ b := by
  have hbyte : ((Sha256.digest e).headD 0).toNat < 256 := UInt8.toNat_lt _
  have hpow : 2 ^ b * 2 ^ (8 - b) = 256 := by
    rw [← Nat.pow_add, Nat.add_sub_cancel' hb]
  rw [checksum, Nat.pow_eq, Nat.div_lt_iff_lt_mul (Nat.two_pow_pos _), hpow]
  exact hbyte

/-- The digits hold the entropy and its check bits, and nothing else. -/
lemma value_indexes (he : e.length = 4 * b) (hb : b ≤ 8) :
    Positional.value 2048 (indexes e) = Bytes.toNatBE e * 2 ^ b + checksum e b := by
  have hdiv : e.length / 4 = b := by omega
  have hsum : checksum e b < 2 ^ b := checksum_lt e hb
  have hlt : Bytes.toNatBE e * 2 ^ b + checksum e b < 2048 ^ (3 * b) := by
    have hbytes : Bytes.toNatBE e + 1 ≤ 256 ^ (4 * b) := he ▸ Bytes.toNatBE_lt e
    calc Bytes.toNatBE e * 2 ^ b + checksum e b < Bytes.toNatBE e * 2 ^ b + 2 ^ b := by omega
      _ = (Bytes.toNatBE e + 1) * 2 ^ b := by ring
      _ ≤ 256 ^ (4 * b) * 2 ^ b := Nat.mul_le_mul_right _ hbytes
      _ = 2048 ^ (3 * b) := by
        rw [Nat.pow_mul, ← Nat.mul_pow, Nat.pow_mul]
  rw [indexes, hdiv, Positional.value_fixed, Nat.pow_eq, Nat.mod_eq_of_lt hlt]

/-- Digits are read as entropy exactly if they are those of the entropy. -/
lemma entropyOf?_eq_some_iff (hlt : ∀ i ∈ is, i < 2048) (hlen : is.length = 3 * b) (hb : b ≤ 8) :
    entropyOf? is = some e ↔ e.length = 4 * b ∧ is = indexes e := by
  have hdiv : is.length / 3 = b := by omega
  have hpow : 0 < 2 ^ b := Nat.two_pow_pos b
  have hread : entropyOf? is = some e ↔
      checksum e b = Positional.value 2048 is % 2 ^ b ∧
        Bytes.ofNatBE (4 * b) (Positional.value 2048 is / 2 ^ b) = e := by
    simp only [entropyOf?, hdiv, Nat.pow_eq, Option.ite_none_right_eq_some, Option.some.injEq]
    exact ⟨fun ⟨hsum, he⟩ => ⟨he ▸ hsum, he⟩, fun ⟨hsum, he⟩ => ⟨he ▸ hsum, he⟩⟩
  rw [hread]
  constructor
  · rintro ⟨hsum, he⟩
    have hlength : e.length = 4 * b := by rw [← he, Bytes.length_ofNatBE]
    have hvalue : Positional.value 2048 is / 2 ^ b < 256 ^ (4 * b) := by
      have hvalue := hlen ▸ Positional.value_lt hlt
      have hsize : 2048 ^ (3 * b) = 256 ^ (4 * b) * 2 ^ b := by
        rw [Nat.pow_mul, Nat.pow_mul, ← Nat.mul_pow]
      rwa [Nat.div_lt_iff_lt_mul hpow, ← hsize]
    have hnat : Bytes.toNatBE e = Positional.value 2048 is / 2 ^ b := by
      rw [← he, Bytes.toNatBE_ofNatBE, Nat.mod_eq_of_lt hvalue]
    have hbits : e.length / 4 = b := by omega
    refine ⟨hlength, ?_⟩
    rw [indexes, hbits, hnat, hsum, Nat.div_add_mod', ← hlen]
    exact (Positional.fixed_value hlt).symm
  · rintro ⟨hlength, rfl⟩
    have hsum : checksum e b < 2 ^ b := checksum_lt e hb
    rw [value_indexes hlength hb, Nat.mul_comm, Nat.mul_add_mod, Nat.mul_add_div hpow,
      Nat.mod_eq_of_lt hsum, Nat.div_eq_of_lt hsum, Nat.add_zero, ← hlength]
    exact ⟨rfl, Bytes.ofNatBE_toNatBE e⟩

end Seed

end LedgerClient
