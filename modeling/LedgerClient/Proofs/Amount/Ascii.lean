import LedgerClient.Proofs.Amount.Outcome

/-!
Amounts in ASCII. The texts of their grammar are read, and exactly, if they do not come to more than
there can be; all others are refused as malformed. The host steps in where more digits than it
converts stand in front of the point.
-/

namespace LedgerClient

open Text

lemma AllDigits.imp {digit digit' : Char → Bool} {cs : List Char} (h : AllDigits digit cs)
    (himp : ∀ c ∈ cs, digit c = true → digit' c = true) : AllDigits digit' cs :=
  ⟨h.1, fun c hc => himp c hc (h.2 c hc)⟩

namespace Token

variable {s : String} {t whole fraction : List Char} {unit : Nat} {digit digit' : Char → Bool}

lemma Pointed.mem {c : Char} (h : Pointed t whole fraction) (hc : c ∈ whole ++ fraction) :
    c ∈ t := by
  rcases h with ⟨rfl, rfl⟩ | rfl
  · rwa [List.append_nil] at hc
  · rcases List.mem_append.1 hc with hc | hc
    · exact List.mem_append_left _ hc
    · exact List.mem_append_right _ (List.mem_cons_of_mem _ hc)

lemma Pointed.mem_or {c : Char} (h : Pointed t whole fraction) (hc : c ∈ t) :
    c ∈ whole ++ fraction ∨ c = '.' := by
  rcases h with ⟨rfl, rfl⟩ | rfl
  · exact .inl (List.mem_append_left _ hc)
  · simp only [List.mem_append, List.mem_cons] at hc ⊢
    tauto

lemma Written.imp (h : Written digit t whole fraction unit)
    (himp : ∀ c ∈ t, digit c = true → digit' c = true) :
    Written digit' t whole fraction unit := by
  cases h with
  | near hunit hnumber hdigits =>
    exact .near hunit hnumber (hdigits.imp fun c hc => himp c (hunit.mem (hnumber.mem hc)))
  | milli hunit hdigits => exact .milli hunit (hdigits.imp fun c hc => himp c (hunit.mem hc))
  | yocto hunit hdigits => exact .yocto hunit (hdigits.imp fun c hc => himp c (hunit.mem hc))

lemma Written.digits (h : Written digit t whole fraction unit) :
    ∀ c ∈ whole ++ fraction, digit c = true := by
  cases h with
  | near hunit hnumber hdigits => exact hdigits.2
  | milli hunit hdigits => simpa using hdigits.2
  | yocto hunit hdigits => simpa using hdigits.2

/-- There is a space in front of the unit. -/
lemma Written.space_mem (h : Written digit t whole fraction unit) : ' ' ∈ t := by
  have hmem : ∀ {units v}, InUnit units t v → (∀ u ∈ units, ' ' ∈ u.toList) → ' ' ∈ t := by
    rintro units v ⟨u, hu, rfl⟩ hspace
    exact List.mem_append_right _ (hspace u hu)
  cases h with
  | near hunit => exact hmem hunit (by decide)
  | milli hunit => exact hmem hunit (by decide)
  | yocto hunit => exact hmem hunit (by decide)

/-- In ASCII it is the number of digits in front of the point that may be too large. -/
lemma Written.convertible_iff (h : Written Char.isDigit t whole fraction unit) :
    Convertible whole ∧ Convertible (fraction.take 24) ↔ whole.length ≤ digitLimit := by
  obtain ⟨hwhole, hfraction⟩ := List.forall_mem_append.1 h.digits
  have hplaces : (fraction.take 24).length ≤ digitLimit :=
    (List.length_take_le 24 fraction).trans (by decide)
  rw [convertible_of_ascii hwhole,
    convertible_of_ascii fun c hc => hfraction c (List.mem_of_mem_take hc)]
  exact and_iff_left hplaces

lemma Written.of_ascii (h : Written Char.isDigit t whole fraction unit) :
    Written isDigit t whole fraction unit := h.imp fun _ _ hd => isDigit_of_ascii hd

lemma Written.ascii (h : Written isDigit (trim s.toList) whole fraction unit)
    (hs : IsAscii s) :
    Written Char.isDigit (trim s.toList) whole fraction unit :=
  h.imp fun _ hc hd => (ascii_digit (hs _ (mem_of_mem_trim hc))).1 ▸ hd

/-- Trimmed, the text is a number in a unit, with `whole` in front of the point if there is one, and
comes to `n` of the smallest unit, any rest cut off. -/
def Denotes (s : String) (whole : List Char) (n : Nat) : Prop :=
  ∃ fraction unit, Written Char.isDigit (trim s.toList) whole fraction unit ∧
    n = ⌊(Nat.ofDigitChars 10 (whole ++ fraction) 0 / 10 ^ fraction.length * unit : ℚ)⌋₊

/-- The text is an amount with more digits in front of the point than are converted. -/
def TooLong (s : String) : Prop := ∃ whole n, Denotes s whole n ∧ digitLimit < whole.length

variable {n : Nat}

lemma trips_ascii (hs : IsAscii s) : Trips s ↔ TooLong s := by
  constructor
  · rintro ⟨whole, fraction, unit, hwritten, hc⟩
    have hwritten := hwritten.ascii hs
    rw [hwritten.convertible_iff, Nat.not_le] at hc
    exact ⟨whole, _, ⟨fraction, unit, hwritten, rfl⟩, hc⟩
  · rintro ⟨whole, n, ⟨fraction, unit, hwritten, rfl⟩, hlen⟩
    refine ⟨whole, fraction, unit, hwritten.of_ascii, ?_⟩
    rwa [hwritten.convertible_iff, Nat.not_le]

lemma parse_of_denotes (h : Denotes s whole n) :
    ∃ given, Guarded (whole.length ≤ digitLimit) (ofTotal given n) (parse s) := by
  obtain ⟨fraction, unit, hwritten, rfl⟩ := h
  obtain ⟨given, hparse⟩ := parse_of_written hwritten.of_ascii
  rw [decimal, numeral_of_ascii hwritten.digits] at hparse
  exact ⟨given, hparse.congr hwritten.convertible_iff⟩

lemma denotes_of_parse (hs : IsAscii s) {a : Token} (h : parse s = .ok a) :
    ∃ whole n, Denotes s whole n := by
  by_contra hnot
  obtain ⟨m, hm⟩ := parse_of_not_written (s := s) fun ⟨whole, fraction, unit, hwritten⟩ =>
    hnot ⟨whole, _, fraction, unit, hwritten.ascii hs, rfl⟩
  cases hm.symm.trans h

lemma ofTotal_eq_ok_iff {given : String} {a : Token} :
    ofTotal given n = .ok a ↔ a.value = n := by
  rw [ofTotal, Amount.ofNat?]
  split_ifs with hle
  · simp only [Except.ok.injEq]
    exact ⟨fun h => h ▸ rfl, fun h => Amount.ext h.symm⟩
  · exact iff_of_false (by simp) fun h => hle (h ▸ a.le_limit)

/-- The grammar is what is read, as far as the digits are converted, and each text as its number. -/
lemma parse_eq_ok_iff (hs : IsAscii s) {a : Token} :
    parse s = .ok a ↔ ∃ whole, Denotes s whole a.value ∧ whole.length ≤ digitLimit := by
  constructor
  · intro h
    obtain ⟨whole, n, hn⟩ := denotes_of_parse hs h
    obtain ⟨given, ⟨hlen, hparse⟩ | ⟨-, m, hparse⟩⟩ := parse_of_denotes hn
    · rw [ofTotal_eq_ok_iff.1 (hparse.symm.trans h)]
      exact ⟨whole, hn, hlen⟩
    · cases hparse.symm.trans h
  · rintro ⟨whole, hn, hlen⟩
    obtain ⟨given, hparse⟩ := parse_of_denotes hn
    rw [hparse.eq_of hlen, ofTotal_eq_ok_iff]

lemma parse_bare (hbare : ∀ c ∈ trim s.toList, c.isDigit = true ∨ c = '.') :
    ∃ m, parse s = .error (.plain .amount m) := by
  refine parse_of_not_written fun ⟨whole, fraction, unit, hwritten⟩ => ?_
  rcases hbare ' ' hwritten.space_mem with h | h
  · cases h
  · cases h

/-- **Amounts in ASCII are read exactly** where they are of the grammar and not too large, as far as
their digits are converted. Of the others those with too many digits are a fault of the host's, and
all that are left are refused as malformed; so are numbers without a unit. -/
theorem parse_ascii (s : String) (hs : IsAscii s) :
    (∀ n, (∃ a, parse s = .ok a ∧ a.value = n) ↔
      ∃ whole, Denotes s whole n ∧ whole.length ≤ digitLimit ∧ n ≤ 2 ^ 128 - 1) ∧
    ((TooLong s ∧ ∃ m, parse s = .error (.badValue m)) ∨
      (¬ TooLong s ∧ ReadOrRefused .amount (parse s))) ∧
    ((∀ c ∈ trim s.toList, c.isDigit = true ∨ c = '.') →
      ∃ m, parse s = .error (.plain .amount m)) := by
  refine ⟨fun n => ⟨?_, ?_⟩, ?_, parse_bare⟩
  · rintro ⟨a, hparse, rfl⟩
    obtain ⟨whole, hn, hlen⟩ := (parse_eq_ok_iff hs).1 hparse
    exact ⟨whole, hn, hlen, a.le_limit⟩
  · rintro ⟨whole, hn, hlen, hle⟩
    exact ⟨⟨n, hle⟩, (parse_eq_ok_iff hs).2 ⟨whole, hn, hlen⟩, rfl⟩
  · rw [← trips_ascii hs]
    by_cases h : Trips s
    · exact .inl ⟨h, h.badValue⟩
    · exact .inr ⟨h, readOrRefused_of_not_trips h⟩

theorem parse_ascii_fraction : IsAscii " 1.5 NEAR" ∧
    ∃ a, parse " 1.5 NEAR" = .ok a ∧ a.value = 3 * 10 ^ 24 / 2 := by
  have hascii : IsAscii " 1.5 NEAR" := by decide
  have hwritten : Written Char.isDigit (trim " 1.5 NEAR".toList) ['1'] ['5'] (10 ^ 24) := by
    refine .near (v := ['1', '.', '5']) ⟨" NEAR", by decide, by decide +kernel⟩ ?_ ?_
    · exact .inr (by decide +kernel)
    · exact ⟨by decide, List.all_iff_forall_prop.1 (by decide)⟩
  refine ⟨hascii, ((parse_ascii _ hascii).1 _).2 ⟨['1'], ⟨['5'], _, hwritten, ?_⟩, ?_, ?_⟩⟩
  · have hratio : (Nat.ofDigitChars 10 ['1', '5'] 0 / 10 ^ 1 * (10 ^ 24 : Nat) : ℚ) =
        (3 * 10 ^ 24 / 2 : Nat) := by
      norm_num [show Nat.ofDigitChars 10 ['1', '5'] 0 = 15 from rfl]
    exact (Nat.floor_natCast _).symm.trans (congrArg Nat.floor hratio.symm)
  · decide
  · decide

/-- One digit more than are converted, in the smallest unit. -/
def longText : String := String.ofList (List.replicate (digitLimit + 1) '1' ++ " yocto".toList)

lemma longText_written : Written Char.isDigit (trim longText.toList)
    (List.replicate (digitLimit + 1) '1') [] 1 := by
  set ones := List.replicate (digitLimit + 1) '1' with hones
  have hne : ones ≠ [] := List.cons_ne_nil _ _
  have hone : ∀ c ∈ ones, c = '1' := fun c hc => List.eq_of_mem_replicate hc
  have hblank : ∀ c ∈ ones, isBlank c = false := fun c hc => hone c hc ▸ by decide
  have htrim : trim ones = ones := trim_of_not_blank hblank
  have htext : trim longText.toList = ones ++ " yocto".toList := by
    rw [longText, String.toList_ofList, trim_inUnit hne hblank (by decide) (by decide)]
  rw [htext]
  have hwritten : Written Char.isDigit (ones ++ " yocto".toList) (trim ones) [] 1 :=
    .yocto ⟨" yocto", by decide, rfl⟩ (htrim.symm ▸ ⟨hne, fun c hc => hone c hc ▸ by decide⟩)
  rwa [htrim] at hwritten

lemma longText_tooLong : TooLong longText :=
  ⟨_, _, ⟨_, _, longText_written, rfl⟩, by simp⟩

/-- The grammar and the greatest amount alone do not decide. -/
theorem longText_trips : ¬ ∀ s : String, IsAscii s →
    (∀ n, (∃ a, parse s = .ok a ∧ a.value = n) ↔ ∃ whole, Denotes s whole n ∧ n ≤ 2 ^ 128 - 1) ∧
    ((∀ n, ¬ ∃ whole, Denotes s whole n ∧ n ≤ 2 ^ 128 - 1) →
      ∃ m, parse s = .error (.plain .amount m)) := by
  intro h
  have hascii : IsAscii longText := by
    rw [IsAscii, longText, String.toList_ofList]
    refine List.forall_mem_append.2 ⟨fun c hc => ?_, show IsAscii " yocto" by decide⟩
    rw [List.eq_of_mem_replicate hc]
    decide
  obtain ⟨hread, hrefused⟩ := h longText hascii
  obtain ⟨m, hm⟩ := ((trips_ascii hascii).2 longText_tooLong).badValue
  by_cases hn : ∃ n whole, Denotes longText whole n ∧ n ≤ 2 ^ 128 - 1
  · obtain ⟨n, hn⟩ := hn
    obtain ⟨a, ha, -⟩ := (hread n).2 hn
    cases hm.symm.trans ha
  · obtain ⟨message, hmessage⟩ := hrefused (not_exists.1 hn)
    cases hm.symm.trans hmessage

end Token

end LedgerClient
