import LedgerClient.Seed.Words
import Mathlib.Data.List.Chain
import Mathlib.Data.List.Forall2
import Mathlib.Data.List.Nodup

/-!
The list of words: 2048 of them, all of small letters, and no two alike. So a word and its place
determine one another.
-/

namespace LedgerClient

/-- The parts between blanks. -/
def Text.parts (cs : List Char) : List (List Char) :=
  (splitOn isBlank cs).filter (!·.isEmpty)

lemma Text.fields_eq (s : String) : fields s = (parts s.toList).map String.ofList := rfl

namespace Seed

/-! ### The list in letters -/

/-- Rows of words in letters: 2048 words in all, in alphabetical order from row to row. -/
structure Listed (rows : List (List (List Char))) : Prop where
  length : rows.flatten.length = 2048
  ne_nil : [] ∉ rows
  ordered : ∀ r ∈ rows, r.IsChain (· < ·)
  ordered_rows : rows.IsChain fun r s => ∀ x ∈ r.getLast?, ∀ y ∈ s.head?, x < y
  lower : ∀ r ∈ rows, ∀ w ∈ r, w ≠ [] ∧ w.all Char.isLower = true

instance : DecidablePred Listed := fun rows =>
  decidable_of_iff (rows.flatten.length = 2048 ∧ [] ∉ rows ∧
      (∀ r ∈ rows, r.IsChain (· < ·)) ∧
      (rows.IsChain fun r s => ∀ x ∈ r.getLast?, ∀ y ∈ s.head?, x < y) ∧
      ∀ r ∈ rows, ∀ w ∈ r, w ≠ [] ∧ w.all Char.isLower = true)
    ⟨fun ⟨h1, h2, h3, h4, h5⟩ => ⟨h1, h2, h3, h4, h5⟩,
      fun h => ⟨h.length, h.ne_nil, h.ordered, h.ordered_rows, h.lower⟩⟩

/-- The list of words is that of its rows. -/
lemma words_of_rows {ss : List String} {rows : List (List Char)}
    (h : List.Forall₂ (fun s r => s = String.ofList r) ss rows) :
    ss.flatMap Text.fields = (rows.map Text.parts).flatten.map String.ofList := by
  induction h with
  | nil => rfl
  | cons hs _ ih =>
    rw [List.flatMap_cons, ih, hs, Text.fields_eq, String.toList_ofList, List.map_cons,
      List.flatten_cons, List.map_append]

lemma exists_listed_of_rows {rows : List (List Char)}
    (h : List.Forall₂ (fun s r => s = String.ofList r) wordRows rows)
    (hl : Listed (rows.map Text.parts)) :
    ∃ rows, words = rows.flatten.map String.ofList ∧ Listed rows :=
  ⟨_, words_of_rows h, hl⟩

lemma exists_listed : ∃ rows, words = rows.flatten.map String.ofList ∧ Listed rows := by
  apply exists_listed_of_rows
  -- Taking the rows apart one by one settles what they are in letters.
  · dsimp only [wordRows]
    repeat' constructor
  · decide +kernel

lemma length_words : words.length = 2048 := by
  obtain ⟨rows, h, hl⟩ := exists_listed
  rw [h, List.length_map, hl.length]

lemma nodup_words : words.Nodup := by
  obtain ⟨rows, h, hl⟩ := exists_listed
  have hchain : rows.flatten.IsChain (· < ·) :=
    (List.isChain_flatten hl.ne_nil).2 ⟨hl.ordered, hl.ordered_rows⟩
  have hnodup : rows.flatten.Nodup := by
    refine (List.isChain_iff_pairwise.1 hchain).imp fun {v w} hlt heq => ?_
    subst heq
    exact List.lt_irrefl v hlt
  rw [h]
  exact hnodup.map fun a b hab => String.ofList_injective hab

lemma lower_of_mem_words {w : String} (h : w ∈ words) :
    w.toList ≠ [] ∧ ∀ c ∈ w.toList, c.isLower = true := by
  obtain ⟨rows, hrows, hl⟩ := exists_listed
  rw [hrows] at h
  obtain ⟨w, hw, rfl⟩ := List.mem_map.1 h
  obtain ⟨r, hr, hw⟩ := List.mem_flatten.1 hw
  rw [String.toList_ofList]
  exact (hl.lower r hr w hw).imp_right List.all_eq_true.1

/-! ### Words and places -/

variable {i : Nat} {is : List Nat} {w : String} {ws : List String}

lemma wordAt_eq (h : i < 2048) : words[i]? = some (wordAt i) := by
  have hi : i < words.length := by rwa [length_words]
  rw [wordAt, List.getD_eq_getElem?_getD, List.getElem?_eq_getElem hi, Option.getD_some]

lemma wordAt_mem (h : i < 2048) : wordAt i ∈ words := List.mem_of_getElem? (wordAt_eq h)

lemma wordIndex?_eq_some_iff : wordIndex? w = some i ↔ i < 2048 ∧ wordAt i = w := by
  rw [wordIndex?, List.findIdx?_eq_some_iff_getElem]
  constructor
  · rintro ⟨hi, hw, -⟩
    have h : i < 2048 := by rwa [← length_words]
    have hat := wordAt_eq h
    rw [List.getElem?_eq_getElem hi] at hat
    exact ⟨h, (Option.some.inj hat).symm.trans (eq_of_beq hw)⟩
  · rintro ⟨h, rfl⟩
    have hi : i < words.length := by rwa [length_words]
    have hat : words[i] = wordAt i := by
      have := wordAt_eq h
      rw [List.getElem?_eq_getElem hi] at this
      exact Option.some.inj this
    refine ⟨hi, by rw [hat]; exact beq_self_eq_true _, fun j hj hw => ?_⟩
    rw [← hat] at hw
    have := nodup_words.getElem_inj_iff.1 (eq_of_beq hw)
    omega

lemma mapM_wordIndex?_eq_some_iff :
    ws.mapM wordIndex? = some is ↔ (∀ i ∈ is, i < 2048) ∧ ws = is.map wordAt := by
  induction ws generalizing is with
  | nil => cases is <;> simp
  | cons w ws ih =>
    have hcons : (w :: ws).mapM wordIndex? = some is ↔
        ∃ j js, wordIndex? w = some j ∧ ws.mapM wordIndex? = some js ∧ j :: js = is := by
      rw [List.mapM_cons]
      cases wordIndex? w <;> cases ws.mapM wordIndex? <;> simp
    simp only [hcons, ih, wordIndex?_eq_some_iff]
    constructor
    · rintro ⟨j, js, ⟨hj, rfl⟩, ⟨hjs, rfl⟩, rfl⟩
      exact ⟨List.forall_mem_cons.2 ⟨hj, hjs⟩, rfl⟩
    · rintro ⟨his, hw⟩
      cases is with
      | nil => cases hw
      | cons j js =>
        obtain ⟨hj, hjs⟩ := List.forall_mem_cons.1 his
        obtain ⟨rfl, rfl⟩ := List.cons.inj hw
        exact ⟨j, js, ⟨hj, rfl⟩, ⟨hjs, rfl⟩, rfl⟩

end Seed

end LedgerClient
