import LedgerClient.Proofs.Amount.Ascii

/-!
Amounts as they are shown. Gas is read back as it was; of tokens five decimals are shown, and what
is behind them is cut off, never rounded up.
-/

namespace LedgerClient

open Text

/-- Zeros behind a fraction do not count. -/
lemma decimal_append_zeros (whole fraction : List Char) (k : Nat) :
    decimal whole (fraction ++ List.replicate k '0') = decimal whole fraction := by
  have hpow : (10 : ℚ) ^ k ≠ 0 := pow_ne_zero k (by decide)
  rw [decimal, decimal, ← List.append_assoc, numeral_append, numeral_zeros, List.length_append,
    List.length_replicate, pow_add, Nat.add_zero, Nat.cast_mul, Nat.cast_pow, Nat.cast_ofNat,
    mul_div_mul_right _ _ hpow]

/-! ### Tokens -/

namespace Token

/-- The decimals that are shown of a part of a token: five at most, and no zeros at the end. -/
def shownPlaces (rest : Nat) : List Char :=
  ((paddedDigits 24 rest).reverse.dropWhile (· == '0')).reverse.take 5

section Places

variable {rest : Nat}

lemma length_shownPlaces_le (rest : Nat) : (shownPlaces rest).length ≤ 5 :=
  List.length_take_le 5 _

lemma isDigit_of_mem_shownPlaces {c : Char} (h : c ∈ shownPlaces rest) : c.isDigit = true := by
  have hmem := (List.dropWhile_sublist _).mem (List.mem_reverse.1 (List.mem_of_mem_take h))
  exact isDigit_of_mem_paddedDigits (List.mem_reverse.1 hmem)

/-- The zeros that are left out do not count, and five decimals are left of the others. -/
lemma numeral_shownPlaces (h : rest < 10 ^ 24) :
    numeral (shownPlaces rest) * 10 ^ (5 - (shownPlaces rest).length) = rest / 10 ^ 19 := by
  set padded := paddedDigits 24 rest with hpadded
  set stripped := (padded.reverse.dropWhile (· == '0')).reverse with hstripped
  have hzeros : ∀ c ∈ (padded.reverse.takeWhile (· == '0')).reverse, c = '0' := fun c hc =>
    eq_of_beq (List.all_eq_true.1 List.all_takeWhile c (List.mem_reverse.1 hc))
  have hsplit : padded = stripped ++ (padded.reverse.takeWhile (· == '0')).reverse := by
    rw [hstripped, ← List.reverse_append, List.takeWhile_append_dropWhile, List.reverse_reverse]
  have hvalue : decimal [] stripped = rest / 10 ^ 24 := by
    rw [← decimal_append_zeros, ← List.eq_replicate_of_mem hzeros, ← hsplit, decimal,
      List.nil_append, hpadded, numeral_paddedDigits, length_paddedDigits (by decide) h]
  have hratio : decimal [] stripped * (10 ^ 5 : Nat) = rest / (10 ^ 19 : Nat) := by
    rw [hvalue]
    norm_num
    ring
  have hfloor := floor_decimal [] stripped 5
  rw [hratio, Nat.floor_div_eq_div, numeral_nil, Nat.zero_mul, Nat.zero_add] at hfloor
  exact hfloor.symm

end Places

section Display

variable {n : Nat} {number fraction : List Char}

lemma written_number (hnumber : Pointed number (Nat.toDigits 10 n) fraction)
    (hfraction : ∀ c ∈ fraction, c.isDigit = true) :
    Written Char.isDigit (trim (number ++ " NEAR".toList)) (Nat.toDigits 10 n) fraction
      (10 ^ 24) := by
  have hdigits : ∀ c ∈ Nat.toDigits 10 n ++ fraction, c.isDigit = true :=
    List.forall_mem_append.2 ⟨fun c hc => isDigit_of_mem_toDigits hc, hfraction⟩
  have hne : Nat.toDigits 10 n ++ fraction ≠ [] :=
    List.append_ne_nil_of_left_ne_nil Nat.toDigits_ne_nil _
  have hblank : ∀ c ∈ number, isBlank c = false := by
    intro c hc
    rcases hnumber.mem_or hc with hc | rfl
    · exact not_blank_of_isDigit (hdigits c hc)
    · decide
  have hunit : InUnit [" NEAR", " near"] (number ++ " NEAR".toList) number :=
    ⟨" NEAR", List.mem_cons_self, rfl⟩
  rw [trim_inUnit (List.ne_nil_of_mem (hnumber.mem (List.head_mem hne))) hblank (by decide)
    (by decide)]
  exact .near hunit ((trim_of_not_blank hblank).symm ▸ hnumber) ⟨hne, hdigits⟩

/-- A whole number of tokens is shown without a point, as it has no decimals to show. -/
lemma display_pointed (x : Token) : ∃ number, x.display.toList = number ++ " NEAR".toList ∧
    Pointed number (Nat.toDigits 10 (x.value / perNear)) (shownPlaces (x.value % perNear)) := by
  by_cases hrest : x.value % perNear = 0
  · refine ⟨_, ?_, .inl ⟨rfl, ?_⟩⟩
    · simp [display, hrest, natText]
    · rw [hrest]
      decide
  · refine ⟨_, ?_, .inr rfl⟩
    simp [display, hrest, natText, shownPlaces]

lemma written_display (x : Token) :
    Written Char.isDigit (trim x.display.toList) (Nat.toDigits 10 (x.value / perNear))
      (shownPlaces (x.value % perNear)) (10 ^ 24) := by
  obtain ⟨number, htext, hnumber⟩ := display_pointed x
  rw [htext]
  exact written_number hnumber fun c hc => isDigit_of_mem_shownPlaces hc

lemma denotes_display (x : Token) : Denotes x.display (Nat.toDigits 10 (x.value / perNear))
    (x.value - x.value % 10 ^ 19) := by
  have hwritten := written_display x
  refine ⟨_, _, hwritten, ?_⟩
  have hnear : perNear = 10 ^ 24 := by rw [perNear, Nat.pow_eq]
  have hlen := length_shownPlaces_le (x.value % 10 ^ 24)
  have hplaces := numeral_shownPlaces (Nat.mod_lt x.value (show 0 < 10 ^ 24 by decide))
  have hwidth : 24 - (shownPlaces (x.value % 10 ^ 24)).length =
      5 - (shownPlaces (x.value % 10 ^ 24)).length + 19 := by omega
  have hfloor := floor_decimal (Nat.toDigits 10 (x.value / perNear))
    (shownPlaces (x.value % perNear)) 24
  rw [decimal, numeral_of_ascii hwritten.digits] at hfloor
  rw [hfloor, numeral_toDigits, hnear, List.take_of_length_le (by omega), hwidth, pow_add,
    ← Nat.mul_assoc, hplaces]
  omega

/-- The amount less what is behind the fifth decimal. -/
def cut (x : Token) : Token :=
  ⟨x.value - x.value % 10 ^ 19, (Nat.sub_le _ _).trans x.le_limit⟩

lemma cut_eq_self_iff (x : Token) : cut x = x ↔ 10 ^ 19 ∣ x.value := by
  rw [Nat.dvd_iff_mod_eq_zero]
  have hle := Nat.mod_le x.value (10 ^ 19)
  constructor
  · intro h
    have hvalue : x.value - x.value % 10 ^ 19 = x.value := congrArg Amount.value h
    omega
  · intro h
    exact Amount.ext (show x.value - x.value % 10 ^ 19 = x.value by omega)

lemma parse_display_eq (x : Token) : parse x.display = .ok (cut x) := by
  have hlt : x.value / perNear < 10 ^ 39 :=
    (Nat.div_le_self _ _).trans_lt (x.le_limit.trans_lt (by decide))
  have hlen : (Nat.toDigits 10 (x.value / perNear)).length ≤ digitLimit :=
    (length_toDigits_le (by decide) hlt).trans (by decide)
  obtain ⟨given, hparse⟩ := parse_of_denotes (denotes_display x)
  rw [hparse.eq_of hlen, ofTotal_eq_ok_iff, cut]

end Display

end Token

/-! ### Gas -/

namespace Gas

variable {s u : String} {n unit : Nat} {units : List String}

lemma written_number (hscale : (units, unit) ∈ scales) (hu : u ∈ units) (hne : u.toList ≠ [])
    (hlast : isBlank (u.toList.getLast hne) = false)
    (hs : s.toList = Nat.toDigits 10 n ++ u.toList) :
    Written isDigit (trim s.toList) (Nat.toDigits 10 n) unit := by
  have hdigits : ∀ c ∈ Nat.toDigits 10 n, c.isDigit = true := fun c hc => isDigit_of_mem_toDigits hc
  have hblank : ∀ c ∈ Nat.toDigits 10 n, isBlank c = false := fun c hc =>
    not_blank_of_isDigit (hdigits c hc)
  rw [hs, trim_inUnit Nat.toDigits_ne_nil hblank hne hlast]
  exact ⟨units, _, hscale, ⟨u, hu, rfl⟩, (trim_of_not_blank hblank).symm,
    Nat.toDigits_ne_nil, fun c hc => isDigit_of_ascii (hdigits c hc)⟩

lemma display_written (g : Gas) : ∃ n unit, n ≤ g.value ∧ n * unit = g.value ∧
    Written isDigit (trim g.display.toList) (Nat.toDigits 10 n) unit := by
  by_cases h : 0 < g.value / perTera ∧ g.value % perTera = 0
  · refine ⟨g.value / perTera, perTera, Nat.div_le_self _ _,
      Nat.div_mul_cancel (Nat.dvd_of_mod_eq_zero h.2), ?_⟩
    refine written_number (u := " Tgas") List.mem_cons_self (by decide) (by decide) (by decide) ?_
    simp [display, h, natText]
  · refine ⟨g.value, 1, le_rfl, Nat.mul_one g.value, ?_⟩
    have hscale : ([" gas"], 1) ∈ scales := by simp [scales]
    refine written_number (u := " gas") hscale (by decide) (by decide) (by decide) ?_
    rw [display, if_neg h]
    simp [natText]

lemma parse_display_eq (g : Gas) : parse g.display = .ok g := by
  obtain ⟨n, unit, hle, hvalue, hwritten⟩ := display_written g
  have hlt : n < 10 ^ 20 := hle.trans_lt (g.le_limit.trans_lt (by decide))
  have hconvertible : Convertible (Nat.toDigits 10 n) := by
    rw [convertible_of_ascii fun c hc => isDigit_of_mem_toDigits hc]
    exact (length_toDigits_le (by decide) hlt).trans (by decide)
  rw [(parse_of_written hwritten).eq_of hconvertible, numeral_toDigits, hvalue, ofTotal,
    Amount.ofNat?, dif_pos g.le_limit]

end Gas

/-- **Amounts are shown as texts that parse.** Gas is read back as it was, tokens without what is
behind the fifth decimal, so that nothing is lost of just the multiples of that decimal. -/
theorem shown_amounts_parse :
    (∀ x : Token, (∃ whole fraction,
        Token.Written Char.isDigit (trim x.display.toList) whole fraction (10 ^ 24) ∧
          fraction.length ≤ 5) ∧
      ∃ y, Token.parse x.display = .ok y ∧ y.value = x.value - x.value % 10 ^ 19 ∧
        (y = x ↔ 10 ^ 19 ∣ x.value)) ∧
    ∀ g : Gas, Gas.parse g.display = .ok g := by
  refine ⟨fun x => ⟨?_, Token.cut x, ?_, rfl, Token.cut_eq_self_iff x⟩, Gas.parse_display_eq⟩
  · exact ⟨_, _, Token.written_display x, Token.length_shownPlaces_le _⟩
  · exact Token.parse_display_eq x

end LedgerClient
