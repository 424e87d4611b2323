import LedgerClient.Proofs.Bytes.Base58
import LedgerClient.Proofs.Seed.Entropy

/-!
Phrases in other letters' case and with other blanks. Their normal form is the phrase itself, which
is of small letters and single spaces.
-/

namespace LedgerClient

open Text

/-! ### Parts between blanks -/

namespace Text

variable {c : Char} {bs cs ds w : List Char}

/-- All that is known of parts follows from their being split at each blank. -/
lemma parts_append_blank (hc : isBlank c = true) (cs ds : List Char) :
    parts (cs ++ c :: ds) = parts cs ++ parts ds := by
  simp only [parts, splitOn_eq_splitOnP, List.splitOnP_append_cons _ _ hc, List.filter_append]

lemma parts_blank_cons (hc : isBlank c = true) (cs : List Char) : parts (c :: cs) = parts cs :=
  parts_append_blank hc [] cs

lemma parts_blanks_append (h : ∀ c ∈ bs, isBlank c = true) (cs : List Char) :
    parts (bs ++ cs) = parts cs := by
  induction bs with
  | nil => rfl
  | cons b bs ih =>
    obtain ⟨hb, hbs⟩ := List.forall_mem_cons.1 h
    rw [List.cons_append, parts_blank_cons hb, ih hbs]

lemma parts_append_blanks (h : ∀ c ∈ bs, isBlank c = true) (cs : List Char) :
    parts (cs ++ bs) = parts cs := by
  cases bs with
  | nil => rw [List.append_nil]
  | cons b bs =>
    obtain ⟨hb, hbs⟩ := List.forall_mem_cons.1 h
    have hnil : parts bs = [] := by simpa [parts, splitOn] using parts_blanks_append hbs []
    rw [parts_append_blank hb, hnil, List.append_nil]

lemma parts_word (hne : w ≠ []) (h : ∀ c ∈ w, isBlank c = false) : parts w = [w] := by
  rw [parts, splitOn_eq_splitOnP, List.splitOnP_eq_singleton h]
  simpa using hne

lemma parts_intercalate {ws : List (List Char)}
    (h : ∀ w ∈ ws, w ≠ [] ∧ ∀ c ∈ w, isBlank c = false) : parts ([' '].intercalate ws) = ws := by
  induction ws with
  | nil => rfl
  | cons w ws ih =>
    obtain ⟨⟨hne, hw⟩, hws⟩ := List.forall_mem_cons.1 h
    cases ws with
    | nil => simpa using parts_word hne hw
    | cons w' ws =>
      have hblank : isBlank ' ' = true := by decide
      rw [List.intercalate_cons_cons, List.append_assoc, List.singleton_append,
        parts_append_blank hblank, parts_word hne hw, ih hws, List.singleton_append]

lemma mem_of_mem_splitOn {p : Char → Bool} (hw : w ∈ splitOn p cs) (hc : c ∈ w) : c ∈ cs := by
  induction cs generalizing w with
  | nil =>
    obtain rfl := List.mem_singleton.1 hw
    exact hc
  | cons d cs ih =>
    rw [splitOn] at hw
    split at hw
    · rcases List.mem_cons.1 hw with rfl | hw
      · cases hc
      · exact List.mem_cons_of_mem d (ih hw hc)
    · cases hs : splitOn p cs with
      | nil => exact absurd hs (splitOn_ne_nil p cs)
      | cons q qs =>
        rw [hs] at hw ih
        rcases List.mem_cons.1 hw with rfl | hw
        · rcases List.mem_cons.1 hc with rfl | hc
          · exact List.mem_cons_self
          · exact List.mem_cons_of_mem d (ih List.mem_cons_self hc)
        · exact List.mem_cons_of_mem d (ih (List.mem_cons_of_mem q hw) hc)

lemma mem_of_mem_parts (hw : w ∈ parts cs) (hc : c ∈ w) : c ∈ cs :=
  mem_of_mem_splitOn (List.mem_filter.1 hw).1 hc

lemma exists_trim (cs : List Char) : ∃ front back, (∀ c ∈ front, isBlank c = true) ∧
    (∀ c ∈ back, isBlank c = true) ∧ cs = front ++ (trim cs ++ back) := by
  obtain ⟨back, hback, h⟩ := exists_trimEnd (cs.dropWhile isBlank)
  refine ⟨cs.takeWhile isBlank, back, List.all_eq_true.1 List.all_takeWhile, hback, ?_⟩
  rw [trim, ← h, List.takeWhile_append_dropWhile]

lemma forall_mem_intercalate {p : Char → Prop} {ws : List (List Char)} (hspace : p ' ')
    (h : ∀ w ∈ ws, ∀ c ∈ w, p c) : ∀ c ∈ [' '].intercalate ws, p c := by
  induction ws with
  | nil => simp
  | cons w ws ih =>
    obtain ⟨hw, hws⟩ := List.forall_mem_cons.1 h
    cases ws with
    | nil => simpa using hw
    | cons w' ws =>
      rw [List.intercalate_cons_cons]
      refine List.forall_mem_append.2 ⟨List.forall_mem_append.2 ⟨hw, ?_⟩, ih hws⟩
      exact List.forall_mem_singleton.2 hspace

/-! ### Lowercase -/

/-- In ASCII only the capitals have another lowercase form. -/
lemma lowerChar_eq (h : c.toNat < 128) : lowerChar c =
    if 65 ≤ c.toNat ∧ c.toNat ≤ 90 then [Char.ofNat (c.toNat + 32)] else [c] := by
  have hruns : lowerRuns = (65, 90, 1, 32) :: lowerRuns.tail := rfl
  have htail : ∀ r ∈ lowerRuns.tail, 128 ≤ r.1 := by decide +kernel
  have hne : c.toNat ≠ 0x130 := by omega
  rw [lowerChar, if_neg hne]
  dsimp only
  by_cases hcapital : 65 ≤ c.toNat ∧ c.toNat ≤ 90
  · have hcode : ((c.toNat : Int) + 32).toNat = c.toNat + 32 := by omega
    rw [hruns]
    simp [hcapital, Nat.mod_one, hcode]
  · rw [if_neg hcapital, List.find?_eq_none.2 ?_]
    intro r hr hcovers
    simp only [Bool.and_eq_true, decide_eq_true_eq] at hcovers
    rw [hruns] at hr
    rcases List.mem_cons.1 hr with rfl | hr
    · exact hcapital hcovers.1
    · have hle := htail r hr
      omega

/-- What small letters are, next to blanks and capitals. -/
lemma small_letter (h : c.isLower = true) :
    c.toNat < 128 ∧ isBlank c = false ∧ lowerChar c = [c] := by
  have hcode : 97 ≤ c.toNat ∧ c.toNat ≤ 122 := by
    change (c.val ≥ 97 && c.val ≤ 122) = true at h
    simp only [Bool.and_eq_true, decide_eq_true_eq] at h
    exact ⟨UInt32.le_iff_toNat_le.1 h.1, UInt32.le_iff_toNat_le.1 h.2⟩
  have hlt : c.toNat < 128 := by omega
  have hblank : ∀ n : Fin 128, 97 ≤ (Char.ofNat n).toNat → isBlank (Char.ofNat n) = false := by
    decide +kernel
  refine ⟨hlt, forall_ascii (p := fun c => 97 ≤ c.toNat → isBlank c = false) hblank hlt hcode.1, ?_⟩
  rw [lowerChar_eq hlt, if_neg (by omega)]

/-- The capital of a small letter is lowered to it again. -/
lemma lowerChar_toUpper (h : c.isLower = true) : lowerChar c.toUpper = [c] := by
  have hcode : ∀ n : Fin 128, (Char.ofNat n).isLower = true →
      (65 ≤ (Char.ofNat n).toUpper.toNat ∧ (Char.ofNat n).toUpper.toNat ≤ 90) ∧
        Char.ofNat ((Char.ofNat n).toUpper.toNat + 32) = Char.ofNat n := by decide +kernel
  obtain ⟨hcapital, hback⟩ := forall_ascii (p := fun c => c.isLower = true →
    (65 ≤ c.toUpper.toNat ∧ c.toUpper.toNat ≤ 90) ∧ Char.ofNat (c.toUpper.toNat + 32) = c)
    hcode (small_letter h).1 h
  rw [lowerChar_eq (by omega), if_pos hcapital, hback]

/-- Blanks have no case. -/
lemma lowerChar_blank (h : isBlank c = true) : lowerChar c = [c] := by
  obtain ⟨r, hr, hlo, hhi⟩ := (inRanges_iff blankRanges c.toNat).1 h
  have hall : ∀ r ∈ blankRanges, ∀ i : Fin (r.2 - r.1 + 1),
      lowerChar (Char.ofNat (r.1 + i)) = [Char.ofNat (r.1 + i)] := by decide +kernel
  have hc := hall r hr ⟨c.toNat - r.1, by omega⟩
  have hnat : r.1 + (c.toNat - r.1) = c.toNat := by omega
  simpa only [hnat, Char.ofNat_toNat] using hc

lemma blank_not_sigma (h : isBlank c = true) : c.toNat ≠ 0x3A3 := fun hsigma => by
  rw [isBlank, hsigma] at h
  exact absurd h (by decide)

lemma lower_blanks (h : ∀ c ∈ bs, isBlank c = true) : bs.flatMap lowerChar = bs := by
  rw [List.flatMap_congr fun b hb => lowerChar_blank (h b hb), List.flatMap_singleton']

/-- Without a capital sigma each character is lowered by itself. -/
lemma lowerFrom_eq (h : ∀ c ∈ cs, c.toNat ≠ 0x3A3) (before : List Char) :
    lowerFrom before cs = cs.flatMap lowerChar := by
  induction cs generalizing before with
  | nil => rfl
  | cons c cs ih =>
    obtain ⟨hc, hcs⟩ := List.forall_mem_cons.1 h
    rw [lowerFrom, if_neg hc, ih hcs, List.flatMap_cons]

/-! ### ASCII -/

/-- Marks are no characters of ASCII. -/
lemma combiningClass_ascii (h : c.toNat < 128) : combiningClass c = 0 := by
  have hruns : ∀ r ∈ combiningRuns, 128 ≤ r.1 := by decide +kernel
  rw [combiningClass, List.find?_eq_none.2 ?_]
  intro r hr hcovers
  have hle := hruns r hr
  simp only [Bool.and_eq_true, decide_eq_true_eq] at hcovers
  omega

lemma decompose_ascii {s : String} (h : IsAscii s) : decompose s = s := by
  have hchars : s.toList.flatMap decomposeChar = s.toList := by
    have hsame : ∀ c ∈ s.toList, decomposeChar c = [c] := fun c hc =>
      if_pos (lt_trans (h c hc) (by decide))
    rw [List.flatMap_congr hsame, List.flatMap_singleton']
  have hmarks : ∀ cs : List Char, (∀ c ∈ cs, c.toNat < 128) → orderMarks [] cs = cs := by
    intro cs hcs
    induction cs with
    | nil => rfl
    | cons c cs ih =>
      obtain ⟨hc, hcs⟩ := List.forall_mem_cons.1 hcs
      rw [orderMarks, if_pos (combiningClass_ascii hc), ih hcs, List.nil_append]
  rw [decompose, hchars, hmarks _ h, String.ofList_toList]

lemma lowerChar_ascii (h : c.toNat < 128) : ∀ d ∈ lowerChar c, d.toNat < 128 := by
  have hcode : ∀ n : Fin 128, (Char.ofNat n).toNat ≤ 90 →
      (Char.ofNat ((Char.ofNat n).toNat + 32)).toNat < 128 := by decide +kernel
  rw [lowerChar_eq h]
  split
  · next hcapital =>
    exact List.forall_mem_singleton.2 (forall_ascii (p := fun c => c.toNat ≤ 90 →
      (Char.ofNat (c.toNat + 32)).toNat < 128) hcode h hcapital.2)
  · exact List.forall_mem_singleton.2 h

end Text

namespace Seed

/-! ### Spellings -/

/-- Letter by letter the same but for case, with blanks for each space. -/
inductive Recast : List Char → List Char → Prop
  | nil : Recast [] []
  | letter {c d cs ds} (hc : isBlank c = false) (hd : lowerChar d = lowerChar c)
      (h : Recast cs ds) : Recast (c :: cs) (d :: ds)
  | gap {bs cs ds} (hne : bs ≠ []) (hbs : ∀ b ∈ bs, isBlank b = true) (h : Recast cs ds) :
      Recast (' ' :: cs) (bs ++ ds)

/-- The text spells the phrase in any letters' case and with any blanks between words and around
them. -/
def Respells (phrase text : String) : Prop :=
  ∃ front ds back, (∀ b ∈ front, isBlank b = true) ∧ (∀ b ∈ back, isBlank b = true) ∧
    Recast phrase.toList ds ∧ text.toList = front ++ (ds ++ back)

/-- A character of phrases. -/
def Plain (c : Char) : Prop := c.isLower = true ∨ c = ' '

variable {cs ds : List Char}

lemma space_blank : ∀ b ∈ [' '], isBlank b = true :=
  List.forall_mem_singleton.2 (by decide)

lemma Recast.refl (hcs : ∀ c ∈ cs, Plain c) : Recast cs cs := by
  induction cs with
  | nil => exact .nil
  | cons c cs ih =>
    obtain ⟨hc, hrest⟩ := List.forall_mem_cons.1 hcs
    rcases hc with hc | rfl
    · exact .letter (small_letter hc).2.1 rfl (ih hrest)
    · exact .gap (List.cons_ne_nil _ _) space_blank (ih hrest)

/-- A phrase in capitals. -/
lemma recast_upper (hcs : ∀ c ∈ cs, Plain c) : Recast cs (cs.map Char.toUpper) := by
  induction cs with
  | nil => exact .nil
  | cons c cs ih =>
    obtain ⟨hc, hrest⟩ := List.forall_mem_cons.1 hcs
    rcases hc with hc | rfl
    · obtain ⟨-, hblank, hlower⟩ := small_letter hc
      exact .letter hblank ((lowerChar_toUpper hc).trans hlower.symm) (ih hrest)
    · exact .gap (List.cons_ne_nil _ _) space_blank (ih hrest)

lemma Plain.letter {c : Char} (h : Plain c) (hc : isBlank c = false) :
    c.isLower = true :=
  h.resolve_right fun hspace => by
    subst hspace
    exact absurd hc (by decide)

lemma Recast.not_sigma (h : Recast cs ds) (hcs : ∀ c ∈ cs, Plain c) :
    ∀ d ∈ ds, d.toNat ≠ 0x3A3 := by
  induction h with
  | nil => simp
  | @letter c d cs ds hc hd _ ih =>
    obtain ⟨hplain, hcs⟩ := List.forall_mem_cons.1 hcs
    refine List.forall_mem_cons.2 ⟨fun hsigma => ?_, ih hcs⟩
    obtain ⟨hlt, -, hlower⟩ := small_letter (hplain.letter hc)
    have hd' : lowerChar d = [Char.ofNat 0x3C3] := by
      rw [← Char.ofNat_toNat d, hsigma]
      decide +kernel
    rw [hlower, hd'] at hd
    rw [← List.singleton_inj.1 hd] at hlt
    exact absurd hlt (by decide)
  | @gap bs cs ds _ hbs _ ih =>
    exact List.forall_mem_append.2
      ⟨fun b hb => blank_not_sigma (hbs b hb), ih (List.forall_mem_cons.1 hcs).2⟩

/-- In lowercase a text has the parts of the phrase that it spells. The first part is that of the
phrase also where it is empty. -/
lemma Recast.split (h : Recast cs ds) (hcs : ∀ c ∈ cs, Plain c) :
    ∃ p ps qs, splitOn isBlank (ds.flatMap lowerChar) = p :: ps ∧
      splitOn isBlank cs = p :: qs ∧ ps.filter (!·.isEmpty) = qs.filter (!·.isEmpty) := by
  induction h with
  | nil => exact ⟨[], [], [], rfl, rfl, rfl⟩
  | @letter c d cs ds hc hd _ ih =>
    obtain ⟨hplain, hcs⟩ := List.forall_mem_cons.1 hcs
    obtain ⟨p, ps, qs, hp, hq, hpq⟩ := ih hcs
    obtain ⟨-, -, hlower⟩ := small_letter (hplain.letter hc)
    refine ⟨c :: p, ps, qs, ?_, ?_, hpq⟩
    · rw [List.flatMap_cons, hd, hlower, List.singleton_append, splitOn, hp, hc]
      rfl
    · rw [splitOn, hq, hc]
      rfl
  | @gap bs cs ds hne hbs _ ih =>
    obtain ⟨p, ps, qs, hp, hq, hpq⟩ := ih (List.forall_mem_cons.1 hcs).2
    obtain ⟨b, bs, rfl⟩ := List.exists_cons_of_ne_nil hne
    obtain ⟨hb, hbs⟩ := List.forall_mem_cons.1 hbs
    have hparts : parts (bs ++ ds.flatMap lowerChar) = parts cs := by
      rw [parts_blanks_append hbs, parts, parts, hp, hq, List.filter_cons, List.filter_cons, hpq]
    refine ⟨[], splitOn isBlank (bs ++ ds.flatMap lowerChar), splitOn isBlank cs, ?_, ?_, hparts⟩
    · rw [List.flatMap_append, List.flatMap_cons, lowerChar_blank hb, lower_blanks hbs,
        List.append_assoc, List.singleton_append, splitOn, hb]
      rfl
    · rfl

lemma Recast.parts_eq (h : Recast cs ds) (hcs : ∀ c ∈ cs, Plain c) :
    parts (ds.flatMap lowerChar) = parts cs := by
  obtain ⟨p, ps, qs, hp, hq, hpq⟩ := h.split hcs
  rw [parts, parts, hp, hq, List.filter_cons, List.filter_cons, hpq]

lemma normalize_eq (text : String) : normalize text =
    " ".intercalate ((parts (lowerFrom [] (trim text.toList))).map String.ofList) := by
  rw [normalize, fields_eq, lower, strip, String.toList_ofList, String.toList_ofList]

/-- Whatever spells a phrase of words, its normal form is the phrase. -/
lemma Respells.normalize_words {ws : List String} {text : String}
    (hws : ∀ w ∈ ws, w.toList ≠ [] ∧ ∀ c ∈ w.toList, c.isLower = true)
    (h : Respells (" ".intercalate ws) text) : normalize text = " ".intercalate ws := by
  obtain ⟨front, ds, back, hfront, hback, hrecast, htext⟩ := h
  obtain ⟨front', back', hfront', hback', htrim⟩ := exists_trim text.toList
  have hphrase : (" ".intercalate ws).toList = [' '].intercalate (ws.map String.toList) :=
    String.toList_intercalate
  rw [hphrase] at hrecast
  have hletters : ∀ w ∈ ws.map String.toList, w ≠ [] ∧ ∀ c ∈ w, c.isLower = true := by
    simpa using hws
  have hplain : ∀ c ∈ [' '].intercalate (ws.map String.toList), Plain c :=
    forall_mem_intercalate (.inr rfl) fun w hw c hc => .inl ((hletters w hw).2 c hc)
  have hsigma : ∀ c ∈ text.toList, c.toNat ≠ 0x3A3 := by
    rw [htext]
    refine List.forall_mem_append.2 ⟨fun b hb => blank_not_sigma (hfront b hb), ?_⟩
    exact List.forall_mem_append.2
      ⟨hrecast.not_sigma hplain, fun b hb => blank_not_sigma (hback b hb)⟩
  have htrimmed : ∀ c ∈ trim text.toList, c.toNat ≠ 0x3A3 := fun c hc => hsigma c <| by
    rw [htrim]
    exact List.mem_append_right _ (List.mem_append_left _ hc)
  -- Blanks at the ends belong to no part, whether or not they have been cut off.
  have hends {f b : List Char} (hf : ∀ c ∈ f, isBlank c = true) (hb : ∀ c ∈ b, isBlank c = true)
      (cs : List Char) :
      parts ((f ++ (cs ++ b)).flatMap lowerChar) = parts (cs.flatMap lowerChar) := by
    rw [List.flatMap_append, List.flatMap_append, lower_blanks hf, lower_blanks hb,
      parts_blanks_append hf, parts_append_blanks hb]
  have hparts : parts ((trim text.toList).flatMap lowerChar) = ws.map String.toList := by
    rw [← hends hfront' hback', ← htrim, htext, hends hfront hback, hrecast.parts_eq hplain]
    exact parts_intercalate fun w hw =>
      ⟨(hletters w hw).1, fun c hc => (small_letter ((hletters w hw).2 c hc)).2.1⟩
  rw [normalize_eq, lowerFrom_eq htrimmed, hparts, List.map_map]
  simp

example : normalize "  ABANDON abandon\tabandon   About " = "abandon abandon abandon about" := by
  decide +kernel

lemma isAscii_normalize {text : String} (h : IsAscii text) : IsAscii (normalize text) := by
  have htrim : ∀ c ∈ trim text.toList, c.toNat < 128 := fun c hc => by
    obtain ⟨front, back, -, -, heq⟩ := exists_trim text.toList
    refine h c ?_
    rw [heq]
    exact List.mem_append_right _ (List.mem_append_left _ hc)
  have hsigma : ∀ c ∈ trim text.toList, c.toNat ≠ 0x3A3 := fun c hc hsigma =>
    absurd (htrim c hc) (by rw [hsigma]; decide)
  have hlower : ∀ d ∈ (trim text.toList).flatMap lowerChar, d.toNat < 128 := fun d hd => by
    obtain ⟨c, hc, hd⟩ := List.mem_flatMap.1 hd
    exact lowerChar_ascii (htrim c hc) d hd
  rw [normalize_eq, lowerFrom_eq hsigma, IsAscii, String.toList_intercalate, List.map_map]
  refine forall_mem_intercalate (by decide) fun w hw c hc => ?_
  obtain ⟨v, hv, rfl⟩ := List.mem_map.1 hw
  rw [Function.comp_apply, String.toList_ofList] at hc
  exact hlower c (mem_of_mem_parts hv hc)

end Seed

end LedgerClient
