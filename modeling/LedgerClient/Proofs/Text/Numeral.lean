import LedgerClient.Bytes.Positional
import LedgerClient.Text.Numeral
import Mathlib.Data.Bool.AllAny
import Mathlib.Data.List.Induction
import Mathlib.Tactic.Ring

/-!
The numbers that texts of digits spell. A text is read if each of its digits has a decimal place and
there are not too many of them; digits that are cut off at the end divide the number. In ASCII a
number is spelled by its own digits.
-/

namespace LedgerClient

namespace Positional

variable {base : Nat}

lemma value_append (ds es : List Nat) :
    value base (ds ++ es) = value base ds * base ^ es.length + value base es := by
  induction es using List.reverseRecOn with
  | nil => simp [value]
  | append_singleton es e ih =>
    rw [← List.append_assoc, value_append_singleton, ih, value_append_singleton,
      List.length_append, List.length_singleton, Nat.pow_succ]
    ring

lemma value_lt {ds : List Nat} (h : ∀ d ∈ ds, d < base) : value base ds < base ^ ds.length := by
  induction ds using List.reverseRecOn with
  | nil => simp [value]
  | append_singleton ds d ih =>
    obtain ⟨hds, hd⟩ := List.forall_mem_append.1 h
    have hd : d < base := hd d (List.mem_singleton_self d)
    have hle : value base ds + 1 ≤ base ^ ds.length := ih hds
    calc value base (ds ++ [d]) < value base ds * base + base := by
          rw [value_append_singleton]
          omega
      _ = (value base ds + 1) * base := by ring
      _ ≤ base ^ ds.length * base := Nat.mul_le_mul_right base hle
      _ = base ^ (ds ++ [d]).length := by
          rw [List.length_append, List.length_singleton, Nat.pow_succ]

end Positional

namespace Text

/-- What a digit counts in its place. -/
def place (c : Char) : Nat := (decimalDigit? c).getD 0

lemma place_lt (c : Char) : place c < 10 := by
  rw [place, decimalDigit?]
  cases h : decimalZeros.find? fun z => decide (z ≤ c.toNat) && decide (c.toNat < z + 10) with
  | none => simp
  | some z =>
    have hz := List.find?_some h
    simp only [Bool.and_eq_true, decide_eq_true_eq] at hz
    simp only [Option.map_some, Option.getD_some]
    omega

/-- The number that digits spell. -/
def numeral (cs : List Char) : Nat := Positional.value 10 (cs.map place)

@[simp] lemma numeral_nil : numeral [] = 0 := rfl

lemma numeral_append (cs ds : List Char) :
    numeral (cs ++ ds) = numeral cs * 10 ^ ds.length + numeral ds := by
  rw [numeral, List.map_append, Positional.value_append, List.length_map]
  rfl

lemma numeral_lt (cs : List Char) : numeral cs < 10 ^ cs.length := by
  have hlt : ∀ d ∈ cs.map place, d < 10 := by
    intro d hd
    obtain ⟨c, -, rfl⟩ := List.mem_map.1 hd
    exact place_lt c
  exact (Positional.value_lt hlt).trans_eq (by rw [List.length_map])

lemma numeral_zeros (n : Nat) : numeral (List.replicate n '0') = 0 := by
  induction n with
  | zero => rfl
  | succ n ih =>
    rw [List.replicate_succ', numeral_append, ih]
    rfl

/-- The digits in front are the number less what the others count. -/
lemma numeral_take (cs : List Char) (n : Nat) :
    numeral (cs.take n) = numeral cs / 10 ^ (cs.length - n) := by
  have hsplit : numeral cs = numeral (cs.take n) * 10 ^ (cs.length - n) + numeral (cs.drop n) := by
    rw [← List.length_drop, ← numeral_append, List.take_append_drop]
  have hlt : numeral (cs.drop n) < 10 ^ (cs.length - n) := by
    rw [← List.length_drop]
    exact numeral_lt _
  rw [hsplit, Nat.mul_comm, Nat.mul_add_div (Nat.pow_pos (by decide)), Nat.div_eq_of_lt hlt,
    Nat.add_zero]

/-! ### Texts that are read -/

/-- Each character is a digit with a decimal place, and there are not too many of them. -/
def Convertible (cs : List Char) : Prop :=
  (∀ c ∈ cs, (decimalDigit? c).isSome = true) ∧ cs.length ≤ digitLimit

lemma joinDigitGroups_of_not_mem {cs : List Char} (h : '_' ∉ cs) :
    joinDigitGroups cs = some cs := by
  induction cs with
  | nil => rfl
  | cons c cs ih =>
    obtain ⟨hc, hcs⟩ := not_or.1 (mt List.mem_cons.2 h)
    cases cs with
    | nil => simp [joinDigitGroups, Ne.symm hc]
    | cons d r =>
      have hd : d ≠ '_' := fun he => hcs (he ▸ List.mem_cons_self)
      rw [joinDigitGroups, ih hcs]
      · rfl
      · exact Ne.symm hc
      · exact fun _ _ he _ => hd he

lemma decimalValueFrom_eq (acc : Nat) (cs : List Char) :
    decimalValueFrom acc cs = if cs.all fun c => (decimalDigit? c).isSome
      then some ((cs.map place).foldl (fun n d => n * 10 + d) acc) else none := by
  induction cs generalizing acc with
  | nil => simp [decimalValueFrom]
  | cons c cs ih =>
    rw [decimalValueFrom]
    cases hc : decimalDigit? c with
    | none => simp [hc]
    | some d => simp [hc, ih, place]

/-- Digits are read as the number that they spell, unless they are too many or some have no
decimal place. -/
lemma unsignedNumber?_eq {cs : List Char} (hne : cs ≠ []) (hdigits : ∀ c ∈ cs, isDigit c = true) :
    (Convertible cs ∧ unsignedNumber? cs = some (numeral cs)) ∨
      (¬ Convertible cs ∧ unsignedNumber? cs = none) := by
  have hjoin : joinDigitGroups cs = some cs := by
    refine joinDigitGroups_of_not_mem fun h => ?_
    exact absurd (hdigits _ h) (by decide)
  obtain ⟨c, r, rfl⟩ := List.exists_cons_of_ne_nil hne
  simp only [unsignedNumber?, hjoin, Option.bind_eq_bind, Option.bind_some, decimalValue?,
    decimalValueFrom_eq]
  by_cases hlen : (c :: r).length ≤ digitLimit
  · rw [if_neg (by omega)]
    split_ifs with hall
    · exact .inl ⟨⟨List.all_eq_true.1 hall, hlen⟩, rfl⟩
    · exact .inr ⟨fun h => hall (List.all_eq_true.2 h.1), rfl⟩
  · rw [if_pos (by omega)]
    exact .inr ⟨fun h => hlen h.2, rfl⟩

/-! ### ASCII -/

def IsAscii (s : String) : Prop := ∀ c ∈ s.toList, c.toNat < 128

instance (s : String) : Decidable (IsAscii s) :=
  decidable_of_iff (s.toList.all fun c => c.toNat < 128) List.all_iff_forall_prop

lemma isAscii_append {s t : String} : IsAscii (s ++ t) ↔ IsAscii s ∧ IsAscii t := by
  rw [IsAscii, String.toList_append]
  exact List.forall_mem_append

lemma forall_ascii {p : Char → Prop} (h : ∀ n : Fin 128, p (Char.ofNat n)) {c : Char}
    (hc : c.toNat < 128) : p c := by
  have hp := h ⟨c.toNat, hc⟩
  rwa [Char.ofNat_toNat] at hp

/-- In ASCII the digits are those from `0` to `9`, and each has a decimal place. -/
lemma ascii_digit {c : Char} (h : c.toNat < 128) : isDigit c = c.isDigit ∧
    (c.isDigit = true → (decimalDigit? c).isSome = true ∧ place c = c.toNat - '0'.toNat) := by
  refine forall_ascii (p := fun c => isDigit c = c.isDigit ∧ (c.isDigit = true →
    (decimalDigit? c).isSome = true ∧ place c = c.toNat - '0'.toNat)) ?_ h
  decide +kernel

lemma toNat_lt_of_isDigit {c : Char} (h : c.isDigit = true) : c.toNat < 128 := by
  have hle : c.val ≤ 57 := by
    simp only [Char.isDigit, Bool.and_eq_true, decide_eq_true_eq] at h
    exact h.2
  exact (UInt32.le_iff_toNat_le.1 hle).trans_lt (by decide)

lemma isDigit_of_ascii {c : Char} (h : c.isDigit = true) : isDigit c = true :=
  (ascii_digit (toNat_lt_of_isDigit h)).1.trans h

variable {cs : List Char}

lemma convertible_of_ascii (h : ∀ c ∈ cs, c.isDigit = true) :
    Convertible cs ↔ cs.length ≤ digitLimit := by
  refine ⟨fun hc => hc.2, fun hlen => ⟨fun c hc => ?_, hlen⟩⟩
  exact ((ascii_digit (toNat_lt_of_isDigit (h c hc))).2 (h c hc)).1

lemma numeral_of_ascii (h : ∀ c ∈ cs, c.isDigit = true) :
    numeral cs = Nat.ofDigitChars 10 cs 0 := by
  have hplace : cs.map place = cs.map fun c => c.toNat - '0'.toNat :=
    List.map_congr_left fun c hc =>
      ((ascii_digit (toNat_lt_of_isDigit (h c hc))).2 (h c hc)).2
  rw [numeral, hplace, Positional.value, List.foldl_map, Nat.ofDigitChars]
  simp only [Nat.mul_comm]

/-! ### The digits of a number -/

lemma isDigit_of_mem_toDigits {n : Nat} {c : Char} (h : c ∈ Nat.toDigits 10 n) :
    c.isDigit = true :=
  Nat.isDigit_of_mem_toDigits (by decide) (by decide) h

lemma numeral_toDigits (n : Nat) : numeral (Nat.toDigits 10 n) = n := by
  rw [numeral_of_ascii fun c hc => isDigit_of_mem_toDigits hc]
  exact Nat.ofDigitChars_ten_toDigits

lemma length_toDigits_le {n k : Nat} (hk : 0 < k) (h : n < 10 ^ k) :
    (Nat.toDigits 10 n).length ≤ k :=
  (Nat.length_toDigits_le_iff (by decide) hk).2 h

lemma isOverlong_iff {n : Int} : isOverlong n = true ↔ 10 ^ digitLimit ≤ n.natAbs := by
  have hlength : (Nat.toDigits 10 n.natAbs).length ≤ digitLimit ↔ n.natAbs < 10 ^ digitLimit :=
    Nat.length_toDigits_le_iff (by decide) (by decide)
  rw [isOverlong, decide_eq_true_eq, ← not_le, hlength, not_lt]

lemma isOverlong_of_lt {n : Int} {k : Nat} (hk : k ≤ digitLimit) (h : n.natAbs < 10 ^ k) :
    isOverlong n = false := by
  rw [← Bool.not_eq_true, isOverlong_iff, not_le]
  exact Nat.lt_of_lt_of_le h (Nat.pow_le_pow_right (by decide) hk)

lemma isOverlong_pow {k : Nat} (h : digitLimit ≤ k) : isOverlong (10 ^ k) = true := by
  rw [isOverlong_iff, Int.natAbs_pow]
  exact Nat.pow_le_pow_right (by decide) h

lemma not_blank_of_isDigit {c : Char} (h : c.isDigit = true) : isBlank c = false := by
  refine forall_ascii (p := fun c => c.isDigit = true → isBlank c = false) ?_
    (toNat_lt_of_isDigit h) h
  decide +kernel

section Padded

variable {width n : Nat}

lemma isDigit_of_mem_paddedDigits {c : Char} (h : c ∈ paddedDigits width n) : c.isDigit = true := by
  rcases List.mem_append.1 h with h | h
  · rw [List.eq_of_mem_replicate h]
    decide
  · exact isDigit_of_mem_toDigits h

lemma length_paddedDigits (hwidth : 0 < width) (h : n < 10 ^ width) :
    (paddedDigits width n).length = width := by
  have hlen := length_toDigits_le hwidth h
  rw [paddedDigits, List.length_append, List.length_replicate]
  omega

lemma numeral_paddedDigits (width n : Nat) : numeral (paddedDigits width n) = n := by
  rw [paddedDigits, numeral_append, numeral_zeros, Nat.zero_mul, Nat.zero_add, numeral_toDigits]

end Padded

end Text

end LedgerClient
