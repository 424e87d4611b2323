import LedgerClient.Proofs.Text.Numeral
import LedgerClient.Text.Quoted
import Mathlib.Data.List.Infix
import Mathlib.Data.List.TakeWhile

/-!
Texts that occur in others. What occurs in a text that is put together occurs in one of its parts,
unless it lies across the place where they meet; often one character tells that it does not. A text
without characters that are escaped occurs in its quotation.
-/

namespace LedgerClient.Text

/-- Somewhere in `s` the characters of `k` stand next to each other. -/
def Occurs (k s : String) : Prop := k.toList <:+: s.toList

instance (k s : String) : Decidable (Occurs k s) :=
  inferInstanceAs (Decidable (k.toList <:+: s.toList))

lemma Occurs.length_le {k s : String} (h : Occurs k s) : k.length ≤ s.length := by
  rw [← String.length_toList, ← String.length_toList]
  exact List.IsInfix.length_le h

section Parts

variable {k front a b : List Char} {c : Char}

/-- A character that is not of the text parts it from what is behind. -/
lemma infix_append_cons (hc : c ∉ k) (h : k <:+: a ++ c :: b) : k <:+: a ∨ k <:+: b := by
  rcases List.infix_append_iff.1 h with h | h | ⟨x, y, rfl, hx, hy⟩
  · exact .inl h
  · rcases List.infix_cons_iff.1 h with h | h
    · rcases List.prefix_cons_iff.1 h with rfl | ⟨r, rfl, -⟩
      · exact .inl List.nil_infix
      · exact absurd List.mem_cons_self hc
    · exact .inr h
  · rcases List.prefix_cons_iff.1 hy with rfl | ⟨r, rfl, -⟩
    · rw [List.append_nil]
      exact .inl hx.isInfix
    · exact absurd (List.mem_append_right x List.mem_cons_self) hc

lemma infix_of_head_not_mem (hc : c ∉ a) (h : c :: k <:+: a ++ b) : c :: k <:+: b := by
  induction a with
  | nil => exact h
  | cons d a ih =>
    obtain ⟨hd, ha⟩ := not_or.1 (mt List.mem_cons.2 hc)
    rcases List.infix_cons_iff.1 h with h | h
    · exact absurd (List.cons_prefix_cons.1 h).1 hd
    · exact ih ha h

lemma infix_of_last_not_mem (hc : c ∉ b) (h : k ++ [c] <:+: a ++ b) : k ++ [c] <:+: a := by
  rw [← List.reverse_infix, List.reverse_append, List.reverse_singleton] at h ⊢
  rw [List.reverse_append] at h
  exact infix_of_head_not_mem (mt List.mem_reverse.1 hc) h

/-- Words that do not even hold the front of the text are passed over, where that front has no
character like the one they end with. -/
lemma infix_of_words (hfront : front <+: k) (hc : c ∉ front) (ha : ¬ front <:+: a)
    (hlast : a.getLast? = some c) (h : k <:+: a ++ b) : k <:+: b := by
  obtain ⟨words, rfl⟩ := List.getLast?_eq_some_iff.1 hlast
  rcases List.infix_append_iff.1 h with h | h | ⟨x, y, rfl, hx, hy⟩
  · exact absurd (hfront.isInfix.trans h) ha
  · exact h
  · -- the front does not reach over the last character of the words
    rcases List.prefix_or_prefix_of_prefix hfront (List.prefix_append x y) with hle | hle
    · exact absurd (hle.isInfix.trans hx.isInfix) ha
    · rcases List.eq_nil_or_concat x with rfl | ⟨x', d, rfl⟩
      · exact hy.isInfix
      · obtain ⟨s, hs⟩ := hx
        rw [List.concat_eq_append, ← List.append_assoc] at hs
        obtain rfl : d = c := by simpa using (List.append_inj' hs rfl).2
        exact absurd (hle.subset (by simp)) hc

/-- A text ends in front of the first place of a character, or is parted there. -/
lemma takeWhile_cases (c : Char) (cs : List Char) :
    (cs.dropWhile (· != c) = [] ∧ cs.takeWhile (· != c) = cs ∧ c ∉ cs) ∨
    ∃ back, cs.dropWhile (· != c) = c :: back ∧ cs = cs.takeWhile (· != c) ++ c :: back ∧
      c ∉ cs.takeWhile (· != c) := by
  have hsplit : cs.takeWhile (· != c) ++ cs.dropWhile (· != c) = cs :=
    List.takeWhile_append_dropWhile
  have hfront : c ∉ cs.takeWhile (· != c) := fun h =>
    absurd (List.all_eq_true.1 List.all_takeWhile c h) (by simp)
  cases hd : cs.dropWhile (· != c) with
  | nil =>
    rw [hd, List.append_nil] at hsplit
    exact .inl ⟨rfl, hsplit, hsplit ▸ hfront⟩
  | cons d back =>
    have hnot := List.head?_dropWhile_not (· != c) cs
    rw [hd] at hnot hsplit
    obtain rfl : d = c := by simpa using hnot
    exact .inr ⟨back, rfl, hsplit.symm, hfront⟩

end Parts

/-! ### Quotation -/

/-- No character of the text is escaped where it is quoted. -/
def Plain (s : String) : Prop := ∀ c ∈ s.toList, isPrintable c = true ∧ c ≠ '\\' ∧ c ≠ '\''

/-- What ASCII has between its controls is printable. -/
lemma isPrintable_of_ascii {c : Char} (hlow : 0x20 ≤ c.toNat) (hhigh : c.toNat < 0x7F) :
    isPrintable c = true := by
  have hhidden : ∀ r ∈ hiddenRanges, r.2 < 0x20 ∨ 0x7F ≤ r.1 := by decide +kernel
  rw [isPrintable, Bool.not_eq_true', Bool.eq_false_iff]
  intro h
  obtain ⟨r, hr, hle, hge⟩ := (inRanges_iff _ _).1 h
  have hr := hhidden r hr
  omega

def isPlainAscii (c : Char) : Bool :=
  0x20 ≤ c.toNat && c.toNat < 0x7F && c != '\\' && c != '\''

lemma plain_of_ascii {s : String} (h : s.toList.all isPlainAscii = true) : Plain s := by
  intro c hc
  have hc := List.all_eq_true.1 h c hc
  simp only [isPlainAscii, Bool.and_eq_true, decide_eq_true_eq, bne_iff_ne] at hc
  obtain ⟨⟨⟨hlow, hhigh⟩, hback⟩, hsingle⟩ := hc
  exact ⟨isPrintable_of_ascii hlow hhigh, hback, hsingle⟩

lemma quoted_of_plain {s : String} (h : Plain s) :
    (quoted s).toList = '\'' :: (s.toList ++ ['\'']) := by
  have hquote : quoteFor s.toList = '\'' := by
    rw [quoteFor, if_neg]
    simp only [Bool.and_eq_true, List.contains_iff_mem, not_and]
    exact fun hm => absurd rfl (h _ hm).2.2
  have hchar : ∀ c ∈ s.toList, quoteChar '\'' c = [c] := by
    intro c hc
    obtain ⟨hprint, hback, hsingle⟩ := h c hc
    have hvisible : ∀ d ∈ ['\n', '\r', '\t'], c ≠ d := by
      rintro d hd rfl
      have hhidden : ∀ d ∈ ['\n', '\r', '\t'], isPrintable d = false :=
        List.all_iff_forall_prop.1 (by decide +kernel)
      exact absurd hprint (by simp [hhidden c hd])
    rw [quoteChar, if_neg (by simp [hback, hsingle]), if_neg (hvisible _ (by simp)),
      if_neg (hvisible _ (by simp)), if_neg (hvisible _ (by simp)), if_pos hprint]
  rw [quoted, String.toList_ofList, hquote, List.flatMap_congr hchar, List.flatMap_singleton']
  rfl

lemma occurs_quoted {s : String} (h : Plain s) : Occurs s (quoted s) := by
  rw [Occurs, quoted_of_plain h]
  exact ⟨['\''], ['\''], rfl⟩

lemma occurs_of_quoted {k s : String} (h : Plain s) (hk : '\'' ∉ k.toList) (hne : k ≠ "")
    (hquoted : Occurs k (quoted s)) : Occurs k s := by
  have hnil : ¬ k.toList <:+: [] := fun hk => hne (String.toList_eq_nil_iff.1 (List.infix_nil.1 hk))
  rw [Occurs, quoted_of_plain h] at hquoted
  rcases infix_append_cons (a := []) hk hquoted with h | h
  · exact absurd h hnil
  · rcases infix_append_cons hk h with h | h
    · exact h
    · exact absurd h hnil

end LedgerClient.Text
