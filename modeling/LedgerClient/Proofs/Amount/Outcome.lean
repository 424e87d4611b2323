import LedgerClient.Proofs.Amount.Parsing

/-!
Every end that parsing an amount can have. A text is read or refused as malformed, except where its
digits pass for a number that the host does not convert.
-/

namespace LedgerClient

open Text

/-- The amount was read, or the text was refused as malformed. -/
def ReadOrRefused {m : Measure} (kind : Kind) (r : Except Error (Amount m)) : Prop :=
  (∃ a, r = .ok a) ∨ ∃ message, r = .error (.plain kind message)

namespace Token

variable {s : String}

lemma ofTotal_readOrRefused (given : String) (n : Nat) :
    ReadOrRefused .amount (ofTotal given n) := by
  rw [ofTotal]
  split
  · exact .inl ⟨_, rfl⟩
  · exact .inr ⟨_, rfl⟩

/-- The text is written as an amount, but its digits cannot be converted: one of them has no decimal
place, or there are too many. -/
def Trips (s : String) : Prop :=
  ∃ whole fraction unit, Written isDigit (trim s.toList) whole fraction unit ∧
    ¬ (Convertible whole ∧ Convertible (fraction.take 24))

lemma Trips.badValue (h : Trips s) : ∃ m, parse s = .error (.badValue m) := by
  obtain ⟨whole, fraction, unit, hwritten, hc⟩ := h
  obtain ⟨given, hparse⟩ := parse_of_written hwritten
  exact hparse.badValue hc

lemma readOrRefused_of_not_trips (h : ¬ Trips s) : ReadOrRefused .amount (parse s) := by
  by_cases hw : ∃ whole fraction unit, Written isDigit (trim s.toList) whole fraction unit
  · obtain ⟨whole, fraction, unit, hwritten⟩ := hw
    obtain ⟨given, hparse⟩ := parse_of_written hwritten
    rw [hparse.eq_of (not_not.1 fun hc => h ⟨whole, fraction, unit, hwritten, hc⟩)]
    exact ofTotal_readOrRefused given _
  · exact .inr (parse_of_not_written hw)

end Token

namespace Gas

variable {s : String}

lemma ofTotal_readOrRefused (given : String) (n : Nat) : ReadOrRefused .gas (ofTotal given n) := by
  rw [ofTotal]
  split
  · exact .inl ⟨_, rfl⟩
  · exact .inr ⟨_, rfl⟩

/-- The text is written as an amount, but its digits cannot be converted. -/
def Trips (s : String) : Prop :=
  ∃ digits unit, Written isDigit (trim s.toList) digits unit ∧ ¬ Convertible digits

lemma Trips.badValue (h : Trips s) : ∃ m, parse s = .error (.badValue m) := by
  obtain ⟨digits, unit, hwritten, hc⟩ := h
  exact (parse_of_written hwritten).badValue hc

lemma readOrRefused_of_not_trips (h : ¬ Trips s) : ReadOrRefused .gas (parse s) := by
  by_cases hw : ∃ digits unit, Written isDigit (trim s.toList) digits unit
  · obtain ⟨digits, unit, hwritten⟩ := hw
    rw [(parse_of_written hwritten).eq_of (not_not.1 fun hc => h ⟨digits, unit, hwritten, hc⟩)]
    exact ofTotal_readOrRefused s _
  · exact .inr (parse_of_not_written hw)

end Gas

/-- **Amounts are read or refused as malformed**, unless the digits of a well-formed text cannot be
converted; then, and only then, the host finds fault with the value. -/
theorem amounts_refused (s : String) :
    ((Token.Trips s ∧ ∃ m, Token.parse s = .error (.badValue m)) ∨
      (¬ Token.Trips s ∧ ReadOrRefused .amount (Token.parse s))) ∧
    ((Gas.Trips s ∧ ∃ m, Gas.parse s = .error (.badValue m)) ∨
      (¬ Gas.Trips s ∧ ReadOrRefused .gas (Gas.parse s))) := by
  constructor
  · by_cases h : Token.Trips s
    · exact .inl ⟨h, h.badValue⟩
    · exact .inr ⟨h, Token.readOrRefused_of_not_trips h⟩
  · by_cases h : Gas.Trips s
    · exact .inl ⟨h, h.badValue⟩
    · exact .inr ⟨h, Gas.readOrRefused_of_not_trips h⟩

lemma Token.superscript : Trips "² NEAR" := by
  have hunit : InUnit [" NEAR", " near"] (trim "² NEAR".toList) ['²'] :=
    ⟨" NEAR", by decide, by decide +kernel⟩
  have hnumber : Pointed (trim ['²']) ['²'] [] := .inl ⟨by decide +kernel, rfl⟩
  have hdigits : AllDigits isDigit (['²'] ++ []) := (allDigits_iff _).1 (by decide +kernel)
  refine ⟨['²'], [], 10 ^ 24, .near hunit hnumber hdigits, fun h => ?_⟩
  exact absurd (h.1.1 '²' List.mem_cons_self) (by decide +kernel)

/-- A superscript passes for a digit. -/
theorem superscript_trips : ¬ ∀ s, ReadOrRefused .amount (Token.parse s) ∧
    ReadOrRefused .gas (Gas.parse s) := by
  intro h
  obtain ⟨m, hm⟩ := Token.superscript.badValue
  rcases (h "² NEAR").1 with ⟨a, ha⟩ | ⟨message, hmessage⟩
  · cases hm.symm.trans ha
  · cases hm.symm.trans hmessage

end LedgerClient
