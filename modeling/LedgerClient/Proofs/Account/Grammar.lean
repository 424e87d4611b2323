import LedgerClient.Account
import Mathlib.Tactic.Common

/-!
The texts of account identifiers: 64 hexadecimal digits, `0x` and 40 of them, or names of segments
joined by points. All of these are accepted. Beyond them only names are whose last letter gave way
to a line feed, which the check of characters passes over.
-/

namespace LedgerClient

lemma Text.splitOn_eq_splitOnP (sep : Char → Bool) (cs : List Char) :
    splitOn sep cs = cs.splitOnP sep := by
  induction cs with
  | nil => rfl
  | cons c cs ih =>
    rw [splitOn, ih, List.splitOnP_cons_eq_if_modifyHead]
    cases hcs : cs.splitOnP sep with
    | nil => exact absurd hcs (List.splitOnP_ne_nil sep cs)
    | cons p ps => rfl

namespace AccountId

variable {s : String} {cs front rest : List Char}

/-! ### Segments -/

lemma segments_eq (cs : List Char) : segments cs = cs.splitOn '.' :=
  Text.splitOn_eq_splitOnP _ cs

lemma segments_append (front rest : List Char) :
    segments (front ++ '.' :: rest) = segments front ++ segments rest := by
  simp only [segments_eq, List.splitOn_append_cons_self]

lemma intercalate_segments (cs : List Char) : ['.'].intercalate (segments cs) = cs := by
  rw [segments_eq, List.intercalate_splitOn]

lemma segments_intercalate {segs : List (List Char)} (h : ∀ seg ∈ segs, '.' ∉ seg)
    (hne : segs ≠ []) : segments (['.'].intercalate segs) = segs := by
  rw [segments_eq, List.splitOn_intercalate '.' h hne]

lemma point_not_mem_segment {seg : List Char} (h : seg ∈ segments cs) : '.' ∉ seg := fun hc =>
  absurd (Text.splitOn_no_sep (· == '.') cs seg h '.' hc) (by decide)

lemma mem_intercalate_iff {segs : List (List Char)} {c : Char} (hc : c ≠ '.') :
    c ∈ ['.'].intercalate segs ↔ ∃ seg ∈ segs, c ∈ seg := by
  induction segs with
  | nil => simp [List.intercalate]
  | cons seg segs ih =>
    cases segs with
    | nil => simp
    | cons seg' segs =>
      rw [List.intercalate_cons_cons, List.append_assoc, List.mem_append, List.mem_append, ih]
      simp [hc]

lemma segments_point_cons (cs : List Char) : segments ('.' :: cs) = [] :: segments cs := rfl

lemma segments_cons {c : Char} (hc : c ≠ '.') (cs : List Char) :
    segments (c :: cs) = (segments cs).modifyHead (c :: ·) := by
  rw [segments_eq, segments_eq, List.splitOn_eq_splitOnP, List.splitOn_eq_splitOnP,
    List.splitOnP_cons_eq_if_modifyHead, if_neg (by simpa using hc)]

/-- A character that is no point lengthens the last segment. -/
lemma exists_segments_concat (front : List Char) :
    ∃ segs seg, ∀ c, c ≠ '.' → segments (front ++ [c]) = segs ++ [seg ++ [c]] := by
  induction front with
  | nil => exact ⟨[], [], fun c hc => by rw [List.nil_append, segments_cons hc]; rfl⟩
  | cons d front ih =>
    obtain ⟨segs, seg, h⟩ := ih
    by_cases hd : d = '.'
    · refine ⟨[] :: segs, seg, fun c hc => ?_⟩
      rw [hd, List.cons_append, segments_point_cons, h c hc, List.cons_append]
    · cases segs with
      | nil =>
        refine ⟨[], d :: seg, fun c hc => ?_⟩
        rw [List.cons_append, segments_cons hd, h c hc]
        rfl
      | cons seg' segs =>
        refine ⟨(d :: seg') :: segs, seg, fun c hc => ?_⟩
        rw [List.cons_append, segments_cons hd, h c hc]
        rfl

/-! ### The grammar -/

def HexDigits (n : Nat) (cs : List Char) : Prop := cs.length = n ∧ ∀ c ∈ cs, isHex c = true

def IsSegmentChar (c : Char) : Prop :=
  ('a' ≤ c ∧ c ≤ 'z') ∨ ('0' ≤ c ∧ c ≤ '9') ∨ c = '-' ∨ c = '_'

instance : DecidablePred IsSegmentChar := fun _ => inferInstanceAs (Decidable (_ ∨ _))

/-- The text is not empty, and no separator stands at either end of it. -/
def IsTight (seg : List Char) : Prop :=
  ∃ a ∈ seg.head?, ∃ b ∈ seg.getLast?, isSeparator a = false ∧ isSeparator b = false

structure IsSegment (seg : List Char) : Prop where
  tight : IsTight seg
  chars : ∀ c ∈ seg, IsSegmentChar c

/-- Segments joined by points, of 2 to 64 characters in all. -/
structure IsName (cs : List Char) : Prop where
  two_le : 2 ≤ cs.length
  le_max : cs.length ≤ 64
  start : ¬ "0x".toList <+: cs
  segments : ∃ segs, segs ≠ [] ∧ (∀ seg ∈ segs, IsSegment seg) ∧ cs = ['.'].intercalate segs

inductive Written (cs : List Char) : Prop
  | implicit : HexDigits 64 cs → Written cs
  | evm {ds : List Char} : HexDigits 40 ds → cs = "0x".toList ++ ds → Written cs
  | name : IsName cs → Written cs

/-- A name in which a line feed stands for the last letter; which letter does not matter. -/
def FeedEnded (cs : List Char) : Prop := ∃ front, cs = front ++ ['\n'] ∧ IsName (front ++ ['a'])

/-! ### What is checked of a name -/

/-- What is checked of a name, first the text as a whole, then its characters and segments. -/
structure Sound (cs : List Char) : Prop where
  two_le : 2 ≤ cs.length
  le_max : cs.length ≤ 64
  start : ¬ "0x".toList <+: cs
  chars : ∀ c ∈ dropFinalFeed cs, isNameChar c = true
  tight : ∀ seg ∈ segments cs, IsTight seg

lemma dropFinalFeed_concat : dropFinalFeed (front ++ ['\n']) = front := by
  simp [dropFinalFeed]

lemma dropFinalFeed_of_forall (h : ∀ front, cs ≠ front ++ ['\n']) : dropFinalFeed cs = cs := by
  rw [dropFinalFeed, if_neg]
  intro hlast
  obtain ⟨front, hfront⟩ := List.getLast?_eq_some_iff.1 (beq_iff_eq.1 hlast)
  exact h front hfront

lemma isNameChar_iff {c : Char} : isNameChar c = true ↔ IsSegmentChar c ∨ c = '.' := by
  simp only [isNameChar, IsSegmentChar, Bool.or_eq_true, Bool.and_eq_true, decide_eq_true_eq,
    beq_iff_eq]
  tauto

lemma segmentFault?_eq_none_iff {seg : List Char} :
    segmentFault? s seg = none ↔ IsTight seg := by
  unfold segmentFault? IsTight
  cases seg.head? with
  | none => simp
  | some a =>
    cases seg.getLast? with
    | none => simp
    | some b => simp

lemma badCharacter?_eq_none_iff (h : 2 ≤ cs.length) :
    badCharacter? cs = none ↔ ∀ c ∈ dropFinalFeed cs, isNameChar c = true := by
  have hne : dropFinalFeed cs ≠ [] := by
    unfold dropFinalFeed
    split_ifs
    · exact fun hnil => absurd (congrArg List.length hnil) (by simp; omega)
    · exact List.ne_nil_of_length_pos (by omega)
  rw [badCharacter?, if_neg (by simpa using hne)]
  split_ifs with hall
  · exact iff_of_true rfl (List.all_eq_true.1 hall)
  · -- a text without a bad character has no line feed at its end either
    refine iff_of_false (fun hnone => hall ?_) (fun hbody => hall (List.all_eq_true.2 hbody))
    have hcs : ∀ c ∈ cs, isNameChar c = true := by simpa using hnone
    refine List.all_eq_true.2 fun c hc => hcs c ?_
    unfold dropFinalFeed at hc
    split_ifs at hc
    · exact List.dropLast_subset _ hc
    · exact hc

lemma nameFault?_eq_none_iff (h : 2 ≤ s.toList.length) : nameFault? s = none ↔
    (∀ c ∈ dropFinalFeed s.toList, isNameChar c = true) ∧
      ∀ seg ∈ segments s.toList, IsTight seg := by
  rw [← badCharacter?_eq_none_iff h, nameFault?]
  cases badCharacter? s.toList with
  | some c => simp
  | none => simp [List.findSome?_eq_none_iff, segmentFault?_eq_none_iff]

lemma startsHex_iff : startsHex cs = true ↔ "0x".toList <+: cs := by
  unfold startsHex
  split
  · simp
  · rename_i hnot
    refine iff_of_false (by simp) ?_
    rintro ⟨rest, rfl⟩
    exact hnot rest rfl

lemma isHexName_iff : isHexName cs = true ↔ HexDigits 64 cs := by
  simp [isHexName, HexDigits]

/-- Behind `0x` there are 40 digits. -/
lemma fault?_of_startsHex {ds : List Char} (hs : s.toList = "0x".toList ++ ds) :
    fault? s = none ↔ HexDigits 40 ds := by
  have hstart : startsHex ("0x".toList ++ ds) = true := startsHex_iff.2 (List.prefix_append _ _)
  have hlen : ("0x".toList ++ ds).length = ds.length + 2 := by simp
  have hdrop : ("0x".toList ++ ds).drop 2 = ds := rfl
  simp only [fault?, hs, hstart, hlen, hdrop, if_true]
  rw [if_neg (by simp)]
  constructor
  · intro h
    split at h
    · cases h
    · split_ifs at h with h42 hall
      exact ⟨by omega, List.all_eq_true.1 hall⟩
  · rintro ⟨hcount, hall⟩
    rw [if_neg (by simp only [maxLength]; omega), if_neg (by omega),
      if_pos (List.all_eq_true.2 hall)]

lemma fault?_of_not_startsHex (hs : ¬ "0x".toList <+: s.toList) :
    fault? s = none ↔ HexDigits 64 s.toList ∨ Sound s.toList := by
  have hstart : startsHex s.toList = false := Bool.eq_false_iff.2 (startsHex_iff.not.2 hs)
  simp only [fault?, hstart, List.isEmpty_iff, Bool.false_eq_true, if_false]
  constructor
  · intro h
    split at h
    · cases h
    · split at h
      · cases h
      · rename_i hmax
        split_ifs at h with hhex hmin
        · exact .inl (isHexName_iff.1 hhex)
        · obtain ⟨hchars, htight⟩ := (nameFault?_eq_none_iff (Nat.not_lt.1 hmin)).1 h
          exact .inr ⟨Nat.not_lt.1 hmin, Nat.not_lt.1 hmax, hs, hchars, htight⟩
  · intro h
    have hlen : minLength ≤ s.toList.length ∧ s.toList.length ≤ maxLength := by
      rcases h with h | h
      · exact h.1 ▸ by decide
      · exact ⟨h.two_le, h.le_max⟩
    have hne : s.toList ≠ [] := List.ne_nil_of_length_pos (Nat.lt_of_lt_of_le (by decide) hlen.1)
    rw [if_neg hne, if_neg (Nat.not_lt.2 hlen.2), if_neg (Nat.not_lt.2 hlen.1)]
    rcases h with h | h
    · rw [if_pos (isHexName_iff.2 h)]
    · rw [(nameFault?_eq_none_iff hlen.1).2 ⟨h.chars, h.tight⟩, ite_self]

lemma not_startsHex_of_hexDigits {n : Nat} (h : HexDigits n cs) : ¬ "0x".toList <+: cs := by
  rintro ⟨rest, rfl⟩
  exact absurd (h.2 'x' (by simp)) (by decide)

/-- A text has no fault in three cases. -/
lemma fault?_eq_none_iff : fault? s = none ↔ HexDigits 64 s.toList ∨
    (∃ ds, HexDigits 40 ds ∧ s.toList = "0x".toList ++ ds) ∨ Sound s.toList := by
  by_cases hs : "0x".toList <+: s.toList
  · obtain ⟨ds, hds⟩ := id hs
    have hhex : ¬ HexDigits 64 s.toList := fun h => not_startsHex_of_hexDigits h hs
    have hsound : ¬ Sound s.toList := fun h => h.start hs
    simp only [hhex, hsound, false_or, or_false, fault?_of_startsHex hds.symm]
    constructor
    · exact fun h => ⟨ds, h, hds.symm⟩
    · rintro ⟨ds', h, hds'⟩
      rwa [List.append_cancel_left (hds.trans hds')]
  · have hevm : ¬ ∃ ds, HexDigits 40 ds ∧ s.toList = "0x".toList ++ ds :=
      fun ⟨ds, _, hds⟩ => hs ⟨ds, hds.symm⟩
    rw [fault?_of_not_startsHex hs]
    simp only [hevm, false_or]

/-! ### Names with and without a line feed -/

/-- Characters and segments, as the grammar has them. -/
lemma segments_spec : (∀ c ∈ cs, isNameChar c = true) ∧ (∀ seg ∈ segments cs, IsTight seg) ↔
    ∃ segs, segs ≠ [] ∧ (∀ seg ∈ segs, IsSegment seg) ∧ cs = ['.'].intercalate segs := by
  constructor
  · rintro ⟨hchars, htight⟩
    refine ⟨segments cs, Text.splitOn_ne_nil _ cs, fun seg hseg => ⟨htight seg hseg, ?_⟩,
      (intercalate_segments cs).symm⟩
    intro c hc
    have hpoint : c ≠ '.' := fun h => point_not_mem_segment hseg (h ▸ hc)
    have hmem : c ∈ cs := by
      rw [← intercalate_segments cs]
      exact (mem_intercalate_iff hpoint).2 ⟨seg, hseg, hc⟩
    exact (isNameChar_iff.1 (hchars c hmem)).resolve_right hpoint
  · rintro ⟨segs, hne, hsegs, rfl⟩
    have hpoint : ∀ seg ∈ segs, '.' ∉ seg := fun seg hseg hc =>
      absurd ((hsegs seg hseg).chars '.' hc) (by decide)
    rw [segments_intercalate hpoint hne]
    refine ⟨fun c hc => isNameChar_iff.2 ?_, fun seg hseg => (hsegs seg hseg).tight⟩
    by_cases h : c = '.'
    · exact .inr h
    · obtain ⟨seg, hseg, hc⟩ := (mem_intercalate_iff h).1 hc
      exact .inl ((hsegs seg hseg).chars c hc)

lemma IsName.feed_not_mem (h : IsName cs) : '\n' ∉ cs := fun hc =>
  absurd ((segments_spec.2 h.segments).1 '\n' hc) (by decide)

lemma sound_iff_isName (h : ∀ front, cs ≠ front ++ ['\n']) : Sound cs ↔ IsName cs := by
  constructor
  · intro hs
    have hchars := hs.chars
    rw [dropFinalFeed_of_forall h] at hchars
    exact ⟨hs.two_le, hs.le_max, hs.start, segments_spec.1 ⟨hchars, hs.tight⟩⟩
  · intro hn
    obtain ⟨hchars, htight⟩ := segments_spec.2 hn.segments
    exact ⟨hn.two_le, hn.le_max, hn.start, by rwa [dropFinalFeed_of_forall h], htight⟩

lemma isTight_concat_iff {seg : List Char} {c : Char} (hc : isSeparator c = false) :
    IsTight (seg ++ [c]) ↔ ∀ a ∈ seg.head?, isSeparator a = false := by
  simp only [IsTight, List.getLast?_concat]
  cases seg with
  | nil => simp [hc]
  | cons a seg => simp [hc]

/-- A last character that neither separates nor joins can be any such character. -/
lemma tight_concat_iff {c d : Char} (hc : isSeparator c = false ∧ c ≠ '.')
    (hd : isSeparator d = false ∧ d ≠ '.') :
    (∀ seg ∈ segments (front ++ [c]), IsTight seg) ↔
      ∀ seg ∈ segments (front ++ [d]), IsTight seg := by
  obtain ⟨segs, seg, h⟩ := exists_segments_concat front
  simp only [h c hc.2, h d hd.2, List.forall_mem_append, List.forall_mem_singleton,
    isTight_concat_iff hc.1, isTight_concat_iff hd.1]

/-- In place of a last letter a line feed is as good as the letter. -/
lemma sound_concat_iff : Sound (front ++ ['\n']) ↔ IsName (front ++ ['a']) := by
  have hletter : ∀ front', front ++ ['a'] ≠ front' ++ ['\n'] := fun front' h =>
    absurd (List.append_inj' h rfl).2 (by decide)
  have hstart : ∀ c, c ≠ 'x' → ("0x".toList <+: front ++ [c] ↔ "0x".toList <+: front) := by
    intro c hc
    rw [List.prefix_concat_iff, or_iff_right]
    intro h
    have hlast := (List.append_inj' (show ['0'] ++ ['x'] = front ++ [c] from h) rfl).2
    exact hc (List.singleton_inj.1 hlast).symm
  have htight : (∀ seg ∈ segments (front ++ ['\n']), IsTight seg) ↔
      ∀ seg ∈ segments (front ++ ['a']), IsTight seg := tight_concat_iff (by decide) (by decide)
  rw [← sound_iff_isName hletter]
  constructor
  · intro h
    refine ⟨by simpa using h.two_le, by simpa using h.le_max, ?_, ?_, htight.1 h.tight⟩
    · exact (hstart 'a' (by decide)).not.2 ((hstart '\n' (by decide)).not.1 h.start)
    · have hfront := h.chars
      rw [dropFinalFeed_concat] at hfront
      rw [dropFinalFeed_of_forall hletter]
      exact List.forall_mem_append.2 ⟨hfront, List.forall_mem_singleton.2 (by decide)⟩
  · intro h
    refine ⟨by simpa using h.two_le, by simpa using h.le_max, ?_, ?_, htight.2 h.tight⟩
    · exact (hstart '\n' (by decide)).not.2 ((hstart 'a' (by decide)).not.1 h.start)
    · have hname := h.chars
      rw [dropFinalFeed_of_forall hletter] at hname
      rw [dropFinalFeed_concat]
      exact (List.forall_mem_append.1 hname).1

/-- Every sound name is one of the grammar, or has a line feed in place of its last letter. -/
lemma sound_iff : Sound cs ↔ IsName cs ∨ FeedEnded cs := by
  by_cases h : ∃ front, cs = front ++ ['\n']
  · obtain ⟨front, rfl⟩ := h
    have hname : ¬ IsName (front ++ ['\n']) := fun h => h.feed_not_mem (by simp)
    rw [sound_concat_iff, or_iff_right hname]
    constructor
    · exact fun h => ⟨front, rfl, h⟩
    · rintro ⟨front', h, hfront'⟩
      rwa [List.append_cancel_right h]
  · rw [sound_iff_isName (not_exists.1 h), or_iff_left]
    rintro ⟨front, hfront, -⟩
    exact h ⟨front, hfront⟩

/-! ### Every text -/

lemma fault?_eq_none_iff_written :
    fault? s = none ↔ Written s.toList ∨ FeedEnded s.toList := by
  rw [fault?_eq_none_iff, sound_iff]
  constructor
  · rintro (h | ⟨ds, h, hds⟩ | h | h)
    · exact .inl (.implicit h)
    · exact .inl (.evm h hds)
    · exact .inl (.name h)
    · exact .inr h
  · rintro ((h | ⟨h, hds⟩ | h) | h)
    · exact .inl h
    · exact .inr (.inl ⟨_, h, hds⟩)
    · exact .inr (.inr (.inl h))
    · exact .inr (.inr (.inr h))

lemma Written.feed_not_mem (h : Written cs) : '\n' ∉ cs := by
  have hhex : ∀ {n ds}, HexDigits n ds → '\n' ∉ ds := fun h hc =>
    absurd (h.2 '\n' hc) (by decide)
  rcases h with h | ⟨h, rfl⟩ | h
  · exact hhex h
  · rw [List.mem_append, not_or]
    exact ⟨by decide, hhex h⟩
  · exact h.feed_not_mem

/-- A text is taken as it is, or refused for a fault. -/
lemma parse_cases (s : String) :
    (∃ h : fault? s = none, parse s = .ok ⟨s, h⟩) ∨
      ∃ f, fault? s = some f ∧ parse s = .error (.plain .account f.message) := by
  rw [parse]
  unfold ofText
  split
  · exact .inl ⟨‹_›, rfl⟩
  · exact .inr ⟨_, ‹_›, rfl⟩

/-- **The identifiers are the texts of the grammar**, and names with a line feed in place of their
last letter. Any other text is refused as an identifier. -/
theorem parse_written (s : String) :
    ((Written s.toList ∨ FeedEnded s.toList) ∧ ∃ a, parse s = .ok a ∧ a.text = s) ∨
      (¬ (Written s.toList ∨ FeedEnded s.toList) ∧
        ∃ m, parse s = .error (.plain .account m)) := by
  rw [← fault?_eq_none_iff_written]
  rcases parse_cases s with ⟨h, hparse⟩ | ⟨f, hf, hparse⟩
  · exact .inl ⟨h, _, hparse, rfl⟩
  · exact .inr ⟨by simp [hf], _, hparse⟩

/-- A line feed passes for a last letter. -/
theorem lineFeed_accepted :
    ¬ ∀ s, (Written s.toList ∧ ∃ a, parse s = .ok a ∧ a.text = s) ∨
      (¬ Written s.toList ∧ ∃ m, parse s = .error (.plain .account m)) := by
  intro h
  have hfault : fault? "alice.near\n" = none := by decide +kernel
  rcases h "alice.near\n" with ⟨hwritten, -⟩ | ⟨-, m, hm⟩
  · exact hwritten.feed_not_mem (by decide)
  · rcases parse_cases "alice.near\n" with ⟨_, hparse⟩ | ⟨f, hf, -⟩
    · cases hparse.symm.trans hm
    · cases hfault.symm.trans hf

end AccountId

end LedgerClient
