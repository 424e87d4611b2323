import LedgerClient.Proofs.Amount.Grammar

/-!
What becomes of a text that is parsed as an amount. If it is written as one, its number counts,
provided that the digits can be converted and the amount is not too large; every other text is
refused as malformed.
-/

namespace LedgerClient

open Text

/-- At least one digit, and nothing but digits. -/
def AllDigits (digit : Char → Bool) (cs : List Char) : Prop :=
  cs ≠ [] ∧ ∀ c ∈ cs, digit c = true

lemma allDigits_iff (cs : List Char) : allDigits cs = true ↔ AllDigits isDigit cs := by
  simp [allDigits, AllDigits]

section Unsigned

variable {kind : Kind} {given : String} {v : List Char}

lemma unsigned_guarded (h : AllDigits isDigit (trim v)) :
    Guarded (Convertible (trim v)) (.ok (numeral (trim v))) (unsigned kind given v) := by
  rw [unsigned, if_pos ((allDigits_iff _).2 h)]
  exact digitsValue_guarded h.1 h.2

lemma unsigned_refused (h : ¬ AllDigits isDigit (trim v)) :
    unsigned kind given v = .error (.plain kind ("Invalid number: " ++ given)) := by
  rw [unsigned, if_neg (mt (allDigits_iff _).1 h)]

end Unsigned

/-! ### Tokens -/

namespace Token

/-- Digits with a point in front of, among or behind them, or without one. -/
def Pointed (t whole fraction : List Char) : Prop :=
  t = whole ∧ fraction = [] ∨ t = whole ++ '.' :: fraction

lemma pointed_parts (t : List Char) :
    Pointed t (t.takeWhile (· != '.')) ((t.dropWhile (· != '.')).drop 1) := by
  rcases takeWhile_cases '.' t with ⟨hd, ht, -⟩ | ⟨back, hd, ht, -⟩
  · rw [hd]
    exact .inl ⟨ht.symm, rfl⟩
  · rw [hd]
    exact .inr ht

/-- There is no other point in front of the point. -/
lemma Pointed.parts {t whole fraction : List Char} (h : Pointed t whole fraction)
    (hwhole : '.' ∉ whole) :
    t.takeWhile (· != '.') = whole ∧ (t.dropWhile (· != '.')).drop 1 = fraction := by
  have hne : ∀ c ∈ whole, (c != '.') = true := fun c hc =>
    bne_iff_ne.2 fun he => hwhole (he ▸ hc)
  obtain ⟨r, rfl, hr⟩ : ∃ r, t = whole ++ r ∧ (r = [] ∧ fraction = [] ∨ r = '.' :: fraction) := by
    rcases h with ⟨rfl, rfl⟩ | rfl
    · exact ⟨[], (List.append_nil t).symm, .inl ⟨rfl, rfl⟩⟩
    · exact ⟨_, rfl, .inr rfl⟩
  rw [List.takeWhile_append_of_pos hne, List.dropWhile_append_of_pos hne]
  rcases hr with ⟨rfl, rfl⟩ | rfl
  · exact ⟨List.append_nil whole, rfl⟩
  · exact ⟨List.append_nil whole, rfl⟩

lemma ofParts_guarded (given : String) {whole fraction : List Char}
    (hdigits : ∀ c ∈ whole ++ fraction, isDigit c = true) :
    Guarded (Convertible whole ∧ Convertible (fraction.take 24))
      (ofTotal given ⌊decimal whole fraction * (10 ^ 24 : Nat)⌋₊)
      (ofParts given whole fraction) := by
  obtain ⟨hwhole, hfraction⟩ := List.forall_mem_append.1 hdigits
  have hplaces : ∀ c ∈ fraction.take 24, isDigit c = true := fun c hc =>
    hfraction c (List.mem_of_mem_take hc)
  have hlen : (fraction.take 24).length ≤ 24 := List.length_take_le 24 fraction
  rw [floor_decimal]
  exact (wholePart_guarded hwhole).bind
    (((fraction_guarded hlen hplaces).bind (Guarded.of_true trivial)).congr (and_iff_left trivial))

/-- The texts of tokens. The digits stand in front of a point and behind it, and `unit` tells how
many of the smallest unit one of their number counts; what a digit is, `digit` says. -/
inductive Written (digit : Char → Bool) (t : List Char) : List Char → List Char → Nat → Prop
  | near {v whole fraction : List Char} (unit : InUnit [" NEAR", " near"] t v)
      (number : Pointed (trim v) whole fraction) (digits : AllDigits digit (whole ++ fraction)) :
      Written digit t whole fraction (10 ^ 24)
  | milli {v : List Char} (unit : InUnit [" milliNEAR", " mNEAR"] t v)
      (digits : AllDigits digit (trim v)) : Written digit t (trim v) [] (10 ^ 21)
  | yocto {v : List Char} (unit : InUnit [" yoctoNEAR", " yocto"] t v)
      (digits : AllDigits digit (trim v)) : Written digit t (trim v) [] 1

section Parse

variable {s : String} {v whole fraction : List Char} {unit : Nat}

lemma ofDecimal_guarded (hnumber : Pointed (trim v) whole fraction)
    (hdigits : AllDigits isDigit (whole ++ fraction)) :
    ∃ given, Guarded (Convertible whole ∧ Convertible (fraction.take 24))
      (ofTotal given ⌊decimal whole fraction * (10 ^ 24 : Nat)⌋₊)
      (ofDecimal (String.ofList v)) := by
  have hpoint : '.' ∉ whole := fun h =>
    absurd (hdigits.2 _ (List.mem_append_left _ h)) (by decide)
  obtain ⟨hwhole, hfraction⟩ := hnumber.parts hpoint
  refine ⟨String.ofList (trim v), ?_⟩
  simp only [ofDecimal, String.toList_ofList, hwhole, hfraction, (allDigits_iff _).2 hdigits,
    if_true]
  exact ofParts_guarded _ hdigits.2

/-- The number is read as so many of the unit, unless its digits cannot be converted. -/
lemma parse_of_written (h : Written isDigit (trim s.toList) whole fraction unit) :
    ∃ given, Guarded (Convertible whole ∧ Convertible (fraction.take 24))
      (ofTotal given ⌊decimal whole fraction * unit⌋₊) (parse s) := by
  have hnil : Convertible ([].take 24) := ⟨by simp, by simp⟩
  cases h with
  | @near v whole fraction hunit hnumber hdigits =>
    have hparse : parse s = ofDecimal (String.ofList v) := by
      rw [parse, hunit.strip (by decide)]
    rw [hparse]
    exact ofDecimal_guarded hnumber hdigits
  | @milli v hunit hdigits =>
    have hparse : parse s = (unsigned .amount s v).bind fun n => ofTotal s (n * perMilliNear) := by
      rw [parse, hunit.strip_others (by decide), hunit.strip (by decide)]
      rfl
    have hscale : perMilliNear = 10 ^ 21 := by rw [perMilliNear, Nat.pow_eq]
    rw [hparse, floor_decimal_nil, ← hscale]
    exact ⟨s, (unsigned_guarded hdigits).bind (.of_true hnil)⟩
  | @yocto v hunit hdigits =>
    have hparse : parse s = (unsigned .amount s v).bind (ofTotal s) := by
      rw [parse, hunit.strip_others (by decide), hunit.strip_others (by decide),
        hunit.strip (by decide)]
      rfl
    rw [hparse, floor_decimal_nil, Nat.mul_one]
    exact ⟨s, (unsigned_guarded hdigits).bind (.of_true hnil)⟩

/-- Every other text is refused as malformed. -/
lemma parse_of_not_written
    (h : ¬ ∃ whole fraction unit, Written isDigit (trim s.toList) whole fraction unit) :
    ∃ m, parse s = .error (.plain .amount m) := by
  rw [parse]
  split
  · rename_i v hv
    have hunit := stripSuffix?_eq_some hv
    have hdigits : allDigits ((trim v).takeWhile (· != '.') ++
        ((trim v).dropWhile (· != '.')).drop 1) = false := by
      refine Bool.eq_false_iff.2 fun hd => ?_
      exact h ⟨_, _, _, .near hunit (pointed_parts (trim v)) ((allDigits_iff _).1 hd)⟩
    simp only [ofDecimal, String.toList_ofList, hdigits]
    exact ⟨_, rfl⟩
  split
  · rename_i v hv
    have hdigits : ¬ AllDigits isDigit (trim v) := fun hd =>
      h ⟨_, _, _, .milli (stripSuffix?_eq_some hv) hd⟩
    rw [unsigned_refused hdigits]
    exact ⟨_, rfl⟩
  split
  · rename_i v hv
    have hdigits : ¬ AllDigits isDigit (trim v) := fun hd =>
      h ⟨_, _, _, .yocto (stripSuffix?_eq_some hv) hd⟩
    rw [unsigned_refused hdigits]
    exact ⟨_, rfl⟩
  · split
    · exact ⟨_, rfl⟩
    · exact ⟨_, rfl⟩

end Parse

end Token

/-! ### Gas -/

namespace Gas

lemma scaled?_eq_some {cs v : List Char} {unit : Nat} {scales : List (List String × Nat)}
    (h : scaled? cs scales = some (v, unit)) :
    ∃ units, (units, unit) ∈ scales ∧ InUnit units cs v := by
  induction scales with
  | nil => cases h
  | cons scale scales ih =>
    obtain ⟨units, n⟩ := scale
    rw [scaled?] at h
    split at h
    · rename_i w hw
      cases h
      exact ⟨units, List.mem_cons_self, stripSuffix?_eq_some hw⟩
    · obtain ⟨units', hmem, hunit⟩ := ih h
      exact ⟨units', List.mem_cons_of_mem _ hmem, hunit⟩

lemma scaled?_of_inUnit {units : List String} {unit : Nat} {t v : List Char}
    (hscale : (units, unit) ∈ scales) (h : InUnit units t v) :
    scaled? t scales = some (v, unit) := by
  simp only [scales, List.mem_cons, List.not_mem_nil, or_false, Prod.mk.injEq] at hscale
  rcases hscale with ⟨rfl, rfl⟩ | ⟨rfl, rfl⟩ | ⟨rfl, rfl⟩
  · rw [scales, scaled?, h.strip (by decide)]
  · rw [scales, scaled?, h.strip_others (by decide), scaled?, h.strip (by decide)]
  · rw [scales, scaled?, h.strip_others (by decide), scaled?, h.strip_others (by decide), scaled?,
      h.strip (by decide)]

/-- The texts of gas: digits, and a unit that counts so many. -/
def Written (digit : Char → Bool) (t digits : List Char) (unit : Nat) : Prop :=
  ∃ units v, (units, unit) ∈ scales ∧ InUnit units t v ∧ digits = trim v ∧ AllDigits digit digits

variable {s : String}

lemma parse_of_written {digits : List Char} {unit : Nat}
    (h : Written isDigit (trim s.toList) digits unit) :
    Guarded (Convertible digits) (ofTotal s (numeral digits * unit)) (parse s) := by
  obtain ⟨units, v, hscale, hunit, rfl, hdigits⟩ := h
  have hparse : parse s = (unsigned .gas s v).bind fun n => ofTotal s (n * unit) := by
    rw [parse, scaled?_of_inUnit hscale hunit]
    rfl
  rw [hparse]
  exact ((unsigned_guarded hdigits).bind (.of_true trivial)).congr (and_iff_left trivial)

lemma parse_of_not_written (h : ¬ ∃ digits unit, Written isDigit (trim s.toList) digits unit) :
    ∃ m, parse s = .error (.plain .gas m) := by
  rw [parse]
  split
  · rename_i v unit hv
    obtain ⟨units, hscale, hunit⟩ := scaled?_eq_some hv
    have hdigits : ¬ AllDigits isDigit (trim v) := fun hd =>
      h ⟨trim v, unit, units, v, hscale, hunit, rfl, hd⟩
    rw [unsigned_refused hdigits]
    exact ⟨_, rfl⟩
  · split
    · exact ⟨_, rfl⟩
    · exact ⟨_, rfl⟩

end Gas

end LedgerClient
