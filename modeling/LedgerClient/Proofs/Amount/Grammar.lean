import LedgerClient.Amount.Text
import LedgerClient.Proofs.Text.Occurrence
import Mathlib.Algebra.Order.Floor.Semifield
import Mathlib.Data.Rat.Floor

/-!
The texts of amounts: a number, a space and a unit, where whole tokens may have a fraction. What is
written so is read as that number of units, cut to a whole number of the smallest one, unless the
digits cannot be converted or the amount is too large. Nothing else is read.
-/

namespace LedgerClient

open Text

/-! ### Blanks -/

namespace Text

lemma mem_of_mem_trim {cs : List Char} {c : Char} (h : c ∈ trim cs) : c ∈ cs := by
  rw [trim, trimEnd, List.mem_reverse] at h
  exact (List.dropWhile_sublist _).mem (List.mem_reverse.1 ((List.dropWhile_sublist _).mem h))

/-- Only the first and the last character count. -/
lemma trim_eq {cs : List Char} (hne : cs ≠ []) (hhead : isBlank (cs.head hne) = false)
    (hlast : isBlank (cs.getLast hne) = false) : trim cs = cs := by
  have hfront : cs.dropWhile isBlank = cs := by
    obtain ⟨c, r, rfl⟩ := List.exists_cons_of_ne_nil hne
    exact List.dropWhile_cons_of_neg (by simpa using hhead)
  have hback : cs.reverse.dropWhile isBlank = cs.reverse := by
    obtain ⟨c, r, hr⟩ := List.exists_cons_of_ne_nil (List.reverse_ne_nil_iff.2 hne)
    have hc : c = cs.getLast hne := by
      rw [← List.head_reverse (List.reverse_ne_nil_iff.2 hne)]
      simp [hr]
    rw [hr, List.dropWhile_cons_of_neg (by rw [hc, hlast]; decide)]
  rw [trim, hfront, trimEnd, hback, List.reverse_reverse]

lemma trim_of_not_blank {cs : List Char} (h : ∀ c ∈ cs, isBlank c = false) : trim cs = cs := by
  rcases eq_or_ne cs [] with rfl | hne
  · rfl
  · exact trim_eq hne (h _ (List.head_mem hne)) (h _ (List.getLast_mem hne))

end Text

/-! ### Units -/

/-- The text is `v` with one of the units behind it. -/
def InUnit (units : List String) (t v : List Char) : Prop := ∃ u ∈ units, t = v ++ u.toList

/-- No other one of the units ends with this one, nor does this one end with another. -/
def Apart (u : String) (units : List String) : Prop :=
  ∀ r ∈ units, r ≠ u → ¬ r.toList <:+ u.toList ∧ ¬ u.toList <:+ r.toList

instance (u : String) (units : List String) : Decidable (Apart u units) :=
  inferInstanceAs
    (Decidable (∀ r ∈ units, r ≠ u → ¬ r.toList <:+ u.toList ∧ ¬ u.toList <:+ r.toList))

lemma stripSuffix?_eq_some {cs v : List Char} {units : List String}
    (h : stripSuffix? cs units = some v) : InUnit units cs v := by
  induction units with
  | nil => cases h
  | cons u units ih =>
    rw [stripSuffix?] at h
    split_ifs at h with hu
    · obtain ⟨w, rfl⟩ := List.isSuffixOf_iff_suffix.1 hu
      obtain rfl := Option.some.inj h
      refine ⟨u, List.mem_cons_self, ?_⟩
      rw [← String.length_toList, List.length_append, Nat.add_sub_cancel, List.take_left]
    · obtain ⟨r, hr, heq⟩ := ih h
      exact ⟨r, List.mem_cons_of_mem u hr, heq⟩

/-- Of units apart from each other a text ends with one at most. -/
lemma stripSuffix?_append {u : String} {units : List String} (v : List Char)
    (h : Apart u units) :
    stripSuffix? (v ++ u.toList) units = if u ∈ units then some v else none := by
  induction units with
  | nil => rfl
  | cons r units ih =>
    obtain ⟨hr, hunits⟩ := List.forall_mem_cons.1 h
    rw [stripSuffix?]
    by_cases hru : r = u
    · subst hru
      rw [if_pos (List.isSuffixOf_iff_suffix.2 (List.suffix_append v _)),
        if_pos List.mem_cons_self, ← String.length_toList, List.length_append,
        Nat.add_sub_cancel, List.take_left]
    · have hnot : ¬ r.toList.isSuffixOf (v ++ u.toList) = true := fun hs => by
        rcases List.suffix_or_suffix_of_suffix (List.isSuffixOf_iff_suffix.1 hs)
          (List.suffix_append v _) with h | h
        · exact (hr hru).1 h
        · exact (hr hru).2 h
      rw [if_neg hnot, ih hunits]
      simp [Ne.symm hru]

section InUnit

variable {units others : List String} {t v : List Char}

lemma InUnit.strip (h : InUnit units t v) (hapart : ∀ u ∈ units, Apart u units) :
    stripSuffix? t units = some v := by
  obtain ⟨u, hu, rfl⟩ := h
  rw [stripSuffix?_append v (hapart u hu), if_pos hu]

lemma InUnit.strip_others (h : InUnit units t v)
    (hapart : ∀ u ∈ units, Apart u others ∧ u ∉ others) : stripSuffix? t others = none := by
  obtain ⟨u, hu, rfl⟩ := h
  rw [stripSuffix?_append v (hapart u hu).1, if_neg (hapart u hu).2]

lemma InUnit.mem {c : Char} (h : InUnit units t v)
    (hc : c ∈ trim v) : c ∈ t := by
  obtain ⟨u, -, rfl⟩ := h
  exact List.mem_append_left _ (mem_of_mem_trim hc)

/-- A text with a unit behind it has no blanks at its ends. -/
lemma trim_inUnit {u : String} (hne : v ≠ []) (hblank : ∀ c ∈ v, isBlank c = false)
    (hu : u.toList ≠ []) (hlast : isBlank (u.toList.getLast hu) = false) :
    trim (v ++ u.toList) = v ++ u.toList := by
  refine trim_eq (List.append_ne_nil_of_left_ne_nil hne _) ?_ ?_
  · rw [List.head_append_of_ne_nil hne]
    exact hblank _ (List.head_mem hne)
  · rw [List.getLast_append_of_ne_nil _ hu]
    exact hlast

end InUnit

/-! ### Digits -/

section Guarded

variable {α β : Type} {P Q : Prop}

/-- In this case `r` is `s`, and otherwise the host finds fault with a value. -/
def Guarded (P : Prop) (s r : Except Error α) : Prop :=
  (P ∧ r = s) ∨ (¬ P ∧ ∃ m, r = .error (.badValue m))

lemma Guarded.eq_of {s r : Except Error α} (h : Guarded P s r) (hp : P) : r = s :=
  h.elim And.right fun hnot => absurd hp hnot.1

lemma Guarded.badValue {s r : Except Error α} (h : Guarded P s r) (hp : ¬ P) :
    ∃ m, r = .error (.badValue m) :=
  h.elim (fun hyes => absurd hyes.1 hp) And.right

lemma Guarded.of_true {r : Except Error α} (h : P) : Guarded P r r := .inl ⟨h, rfl⟩

lemma Guarded.congr {s r : Except Error α} (h : Guarded P s r) (hpq : P ↔ Q) : Guarded Q s r :=
  propext hpq ▸ h

lemma Guarded.bind {r : Except Error α} {a : α} {s : Except Error β} {f : α → Except Error β}
    (h : Guarded P (.ok a) r) (hf : Guarded Q s (f a)) : Guarded (P ∧ Q) s (r.bind f) := by
  rcases h with ⟨hp, rfl⟩ | ⟨hp, m, rfl⟩
  · rcases hf with ⟨hq, hf⟩ | ⟨hq, hf⟩
    · exact .inl ⟨⟨hp, hq⟩, hf⟩
    · exact .inr ⟨fun h => hq h.2, hf⟩
  · exact .inr ⟨fun h => hp h.1, m, rfl⟩

end Guarded

section Digits

variable {cs : List Char}

lemma noNumeral_badValue (cs : List Char) (shown : String) :
    ∃ m, noNumeral cs shown = .badValue m := by
  rw [noNumeral]
  split
  · exact ⟨_, rfl⟩
  · exact ⟨_, rfl⟩

lemma digitsValue_guarded (hne : cs ≠ []) (hdigits : ∀ c ∈ cs, isDigit c = true) :
    Guarded (Convertible cs) (.ok (numeral cs)) (digitsValue cs) := by
  rw [digitsValue]
  rcases unsignedNumber?_eq hne hdigits with ⟨hc, h⟩ | ⟨hc, h⟩
  · exact .inl ⟨hc, by rw [h]⟩
  · obtain ⟨m, hm⟩ := noNumeral_badValue cs (quoted (String.ofList cs))
    exact .inr ⟨hc, m, by simp only [h, hm]⟩

/-- No digits count nothing. -/
lemma wholePart_guarded (hdigits : ∀ c ∈ cs, isDigit c = true) :
    Guarded (Convertible cs) (.ok (numeral cs))
      (if cs.isEmpty then .ok 0 else digitsValue cs) := by
  cases cs with
  | nil => exact .of_true ⟨by simp, by simp⟩
  | cons c cs => exact digitsValue_guarded (List.cons_ne_nil c cs) hdigits

/-- Zeros are written behind a fraction up to the last place of a unit; they are no obstacle. -/
lemma fraction_guarded (hlen : cs.length ≤ 24) (hdigits : ∀ c ∈ cs, isDigit c = true) :
    Guarded (Convertible cs) (.ok (numeral cs * 10 ^ (24 - cs.length)))
      (digitsValue (cs ++ List.replicate (24 - cs.length) '0')) := by
  set padded := cs ++ List.replicate (24 - cs.length) '0' with hpadded
  have hlength : padded.length = 24 := by
    rw [hpadded, List.length_append, List.length_replicate]
    omega
  have hne : padded ≠ [] := List.ne_nil_of_length_pos (by omega)
  have hall : ∀ c ∈ padded, isDigit c = true := by
    intro c hc
    rcases List.mem_append.1 hc with hc | hc
    · exact hdigits c hc
    · rw [List.eq_of_mem_replicate hc]
      decide
  have hvalue : numeral padded = numeral cs * 10 ^ (24 - cs.length) := by
    rw [hpadded, numeral_append, numeral_zeros, List.length_replicate, Nat.add_zero]
  have hconvertible : Convertible padded ↔ Convertible cs := by
    have hlimit : 24 ≤ digitLimit := by decide
    have hzero : ∀ c ∈ List.replicate (24 - cs.length) '0', (decimalDigit? c).isSome = true := by
      intro c hc
      rw [List.eq_of_mem_replicate hc]
      decide
    constructor
    · rintro ⟨h, -⟩
      exact ⟨fun c hc => h c (List.mem_append_left _ hc), hlen.trans hlimit⟩
    · rintro ⟨h, -⟩
      exact ⟨List.forall_mem_append.2 ⟨h, hzero⟩, hlength ▸ hlimit⟩
  rw [← hvalue]
  exact (digitsValue_guarded hne hall).congr hconvertible

end Digits

/-! ### Numbers with a fraction -/

/-- The number with these digits in front of the point and behind it. -/
def decimal (whole fraction : List Char) : ℚ :=
  numeral (whole ++ fraction) / 10 ^ fraction.length

lemma floor_decimal_nil (whole : List Char) (unit : Nat) :
    ⌊decimal whole [] * unit⌋₊ = numeral whole * unit := by
  have hvalue : decimal whole [] * unit = (numeral whole * unit : Nat) := by simp [decimal]
  rw [hvalue, Nat.floor_natCast]

/-- Digits behind the last place of a unit are cut off. -/
lemma floor_decimal (whole fraction : List Char) (n : Nat) :
    ⌊decimal whole fraction * (10 ^ n : Nat)⌋₊ = numeral whole * 10 ^ n +
      numeral (fraction.take n) * 10 ^ (n - (fraction.take n).length) := by
  have hratio : decimal whole fraction * (10 ^ n : Nat) =
      ((numeral whole * 10 ^ fraction.length + numeral fraction) * 10 ^ n : Nat) /
        (10 ^ fraction.length : Nat) := by
    rw [decimal, numeral_append]
    push_cast
    ring
  rw [hratio, Nat.floor_div_eq_div, Nat.add_mul, Nat.mul_right_comm,
    Nat.mul_comm _ (10 ^ fraction.length), Nat.mul_add_div (Nat.pow_pos (by decide))]
  congr 1
  rw [List.length_take]
  rcases Nat.le_total n fraction.length with hn | hn
  · -- there are digits to be cut
    have hpow : 10 ^ fraction.length = 10 ^ (fraction.length - n) * 10 ^ n := by
      rw [← Nat.pow_add, Nat.sub_add_cancel hn]
    rw [Nat.min_eq_left hn, Nat.sub_self, Nat.pow_zero, Nat.mul_one, numeral_take, hpow,
      Nat.mul_div_mul_right _ _ (Nat.pow_pos (by decide))]
  · have hpow : 10 ^ n = 10 ^ (n - fraction.length) * 10 ^ fraction.length := by
      rw [← Nat.pow_add, Nat.sub_add_cancel hn]
    rw [Nat.min_eq_right hn, List.take_of_length_le hn, hpow, ← Nat.mul_assoc,
      Nat.mul_div_cancel _ (Nat.pow_pos (by decide))]

end LedgerClient
