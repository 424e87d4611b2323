import LedgerClient.Proofs.Account.Grammar
import Mathlib.Data.List.Infix

/-!
The hierarchy of named accounts. An account stands below those whose segments are the last ones of
its own, and these form a chain. The parent is sought behind the first point; it is not found where
that text is too short for a name or begins like hexadecimal digits.
-/

namespace LedgerClient.AccountId

variable {a b p q : AccountId} {front rest : List Char}

/-! ### Parts of a name -/

lemma segments_injective : Function.Injective segments :=
  Function.LeftInverse.injective intercalate_segments

/-- No name begins with a point. -/
lemma Sound.front_ne_nil (h : Sound (front ++ '.' :: rest)) : front ≠ [] := by
  rintro rfl
  obtain ⟨a, ha, -⟩ := h.tight [] (by rw [List.nil_append, segments_point_cons]; simp)
  cases ha

lemma dropFinalFeed_behind (h : rest ≠ []) :
    dropFinalFeed (front ++ '.' :: rest) = front ++ '.' :: dropFinalFeed rest := by
  have hlast : (front ++ '.' :: rest).getLast? = rest.getLast? := by
    rw [List.getLast?_append_of_ne_nil _ (by simp), List.getLast?_cons,
      List.getLast?_eq_some_getLast h]
    rfl
  rw [dropFinalFeed, dropFinalFeed, hlast]
  split_ifs
  · rw [List.dropLast_append_of_ne_nil (by simp), List.dropLast_cons_of_ne_nil h]
  · rfl

/-- Behind a point a name goes on as a name, if that is not too short or like hexadecimal digits. -/
lemma Sound.behind (h : Sound (front ++ '.' :: rest)) (hmin : 2 ≤ rest.length)
    (hstart : ¬ "0x".toList <+: rest) : Sound rest := by
  have hmax := h.le_max
  have hchars := h.chars
  have htight := h.tight
  rw [List.length_append, List.length_cons] at hmax
  rw [dropFinalFeed_behind (List.ne_nil_of_length_pos (by omega)), List.forall_mem_append,
    List.forall_mem_cons] at hchars
  rw [segments_append, List.forall_mem_append] at htight
  exact ⟨hmin, by omega, hstart, hchars.2.2, htight.2⟩

lemma sound_of_isNamed (h : a.isNamed = true) : Sound a.chars := by
  simp only [isNamed, isImplicit, isEvmImplicit, Bool.and_eq_true, Bool.not_eq_true',
    Bool.and_eq_false_iff] at h
  obtain ⟨hhex, hevm⟩ := h
  rcases fault?_eq_none_iff.1 a.valid with hdigits | ⟨ds, hdigits, hds⟩ | hsound
  · rw [chars, isHexName_iff.2 hdigits] at hhex
    cases hhex
  · have hstart : startsHex a.chars = true := startsHex_iff.2 ⟨ds, hds.symm⟩
    have hlen : a.chars.length = 42 := by
      rw [chars, hds, List.length_append, hdigits.1]
      rfl
    simp [hstart, hlen] at hevm
  · exact hsound

/-- A name that is shorter than 64 characters is no text of hexadecimal digits. -/
lemma isNamed_of_sound (h : Sound a.chars) (hlen : a.chars.length < 64) : a.isNamed = true := by
  have hhex : isHexName a.chars = false := by
    rw [Bool.eq_false_iff, ne_eq, isHexName_iff]
    exact fun hdigits => absurd hdigits.1 hlen.ne
  have hstart : startsHex a.chars = false := Bool.eq_false_iff.2 (startsHex_iff.not.2 h.start)
  simp [isNamed, isImplicit, isEvmImplicit, hhex, hstart]

/-! ### Accounts below others -/

lemma isSubAccountOf_iff : a.isSubAccountOf p = true ↔
    a.isNamed = true ∧ p.isNamed = true ∧ ∃ front, a.chars = front ++ '.' :: p.chars := by
  simp only [isSubAccountOf, Bool.and_eq_true, List.isSuffixOf_iff_suffix, decide_eq_true_eq,
    and_assoc]
  refine and_congr_right fun ha => and_congr_right fun _ => ⟨?_, ?_⟩
  · rintro ⟨⟨front, h⟩, -⟩
    exact ⟨front, h.symm⟩
  · rintro ⟨front, h⟩
    have hfront : 0 < front.length :=
      List.length_pos_of_ne_nil (h ▸ sound_of_isNamed ha).front_ne_nil
    refine ⟨⟨front, h.symm⟩, ?_⟩
    rw [h, List.length_append, List.length_cons]
    omega

lemma not_isSubAccountOf_self (a : AccountId) : a.isSubAccountOf a = false := by
  rw [Bool.eq_false_iff, ne_eq, isSubAccountOf_iff]
  rintro ⟨-, -, front, h⟩
  have := congrArg List.length h
  rw [List.length_append, List.length_cons] at this
  omega

lemma isSubAccountOf_trans (hab : a.isSubAccountOf b = true) (hbp : b.isSubAccountOf p = true) :
    a.isSubAccountOf p = true := by
  obtain ⟨ha, -, front, hfront⟩ := isSubAccountOf_iff.1 hab
  obtain ⟨-, hp, middle, hmiddle⟩ := isSubAccountOf_iff.1 hbp
  refine isSubAccountOf_iff.2 ⟨ha, hp, front ++ '.' :: middle, ?_⟩
  rw [hfront, hmiddle, List.append_assoc, List.cons_append]

/-- Below means behind some of the segments. -/
lemma isSubAccountOf_iff_drop : a.isSubAccountOf p = true ↔ a.isNamed = true ∧ p.isNamed = true ∧
    ∃ n, 0 < n ∧ p.chars = ['.'].intercalate ((segments a.chars).drop n) := by
  rw [isSubAccountOf_iff]
  refine and_congr_right fun _ => and_congr_right fun hp => ⟨?_, ?_⟩
  · rintro ⟨front, h⟩
    refine ⟨(segments front).length, List.length_pos_of_ne_nil (Text.splitOn_ne_nil _ _), ?_⟩
    rw [h, segments_append, List.drop_left, intercalate_segments]
  · rintro ⟨n, hn, h⟩
    have hlt : n < (segments a.chars).length := by
      by_contra hle
      rw [List.drop_eq_nil_of_le (by omega)] at h
      have := (sound_of_isNamed hp).two_le
      rw [h] at this
      simp [List.intercalate] at this
    -- the segments that were taken off stand in front
    refine ⟨['.'].intercalate ((segments a.chars).take n), segments_injective ?_⟩
    have hpoint : ∀ segs ⊆ segments a.chars, ∀ seg ∈ segs, '.' ∉ seg :=
      fun segs hsub seg hseg => point_not_mem_segment (hsub hseg)
    rw [segments_append, h, segments_intercalate (hpoint _ (List.take_subset _ _)),
      segments_intercalate (hpoint _ (List.drop_subset _ _)), List.take_append_drop]
    · exact List.ne_nil_of_length_pos (by rw [List.length_drop]; omega)
    · exact List.ne_nil_of_length_pos (by rw [List.length_take]; omega)

lemma eq_or_isSubAccountOf (between : List Char) (hp : p.isNamed = true) (hq : q.isNamed = true)
    (h : '.' :: p.chars = between ++ '.' :: q.chars) : p = q ∨ p.isSubAccountOf q = true := by
  cases between with
  | nil => exact .inl (ext (String.toList_injective (List.cons.inj h).2))
  | cons c between =>
    rw [List.cons_append] at h
    exact .inr (isSubAccountOf_iff.2 ⟨hp, hq, between, (List.cons.inj h).2⟩)

/-- Of two accounts above another, the one with the shorter name is above the other one. -/
lemma isSubAccountOf_total (hp : a.isSubAccountOf p = true) (hq : a.isSubAccountOf q = true) :
    p = q ∨ p.isSubAccountOf q = true ∨ q.isSubAccountOf p = true := by
  obtain ⟨-, hpn, front, hfront⟩ := isSubAccountOf_iff.1 hp
  obtain ⟨-, hqn, front', hfront'⟩ := isSubAccountOf_iff.1 hq
  rcases List.append_eq_append_iff.1 (hfront.symm.trans hfront') with
    ⟨between, -, h⟩ | ⟨between, -, h⟩
  · exact (eq_or_isSubAccountOf between hpn hqn h).imp_right .inl
  · exact (eq_or_isSubAccountOf between hqn hpn h).imp Eq.symm .inr

/-- **Accounts are a forest.** Below is a strict order, it means to have further segments in front,
and the accounts above another one are a chain. -/
theorem hierarchy_forest :
    (∀ a : AccountId, a.isSubAccountOf a = false) ∧
    (∀ a b p : AccountId, a.isSubAccountOf b = true → b.isSubAccountOf p = true →
      a.isSubAccountOf p = true) ∧
    (∀ a p : AccountId, a.isSubAccountOf p = true ↔ a.isNamed = true ∧ p.isNamed = true ∧
      ∃ n, 0 < n ∧ p.chars = ['.'].intercalate ((segments a.chars).drop n)) ∧
    ∀ a p q : AccountId, a.isSubAccountOf p = true → a.isSubAccountOf q = true → p ≠ q →
      p.isSubAccountOf q = true ∨ q.isSubAccountOf p = true :=
  ⟨not_isSubAccountOf_self, fun _ _ _ => isSubAccountOf_trans, fun _ _ => isSubAccountOf_iff_drop,
    fun _ _ _ hp hq hne => (isSubAccountOf_total hp hq).resolve_left hne⟩

def carol : AccountId := ⟨"carol.bob.alice.near", by decide +kernel⟩

def bob : AccountId := ⟨"bob.alice.near", by decide +kernel⟩

def near : AccountId := ⟨"near", by decide +kernel⟩

/-- Two accounts above a third one. -/
theorem carol_forest : carol.isSubAccountOf bob = true ∧ carol.isSubAccountOf near = true ∧
    bob ≠ near ∧ (bob.isSubAccountOf near = true ∨ near.isSubAccountOf bob = true) := by
  have hbob : carol.isSubAccountOf bob = true := by decide +kernel
  have hnear : carol.isSubAccountOf near = true := by decide +kernel
  have hne : bob ≠ near := by decide +kernel
  exact ⟨hbob, hnear, hne, hierarchy_forest.2.2.2 carol bob near hbob hnear hne⟩

/-! ### The parent -/

/-- A name with a point, behind which stands no name: the text is too short, or begins like
hexadecimal digits. -/
def Orphaned (a : AccountId) : Prop :=
  a.isNamed = true ∧ ∃ front rest, '.' ∉ front ∧ a.chars = front ++ '.' :: rest ∧
    (rest.length < 2 ∨ "0x".toList <+: rest)

lemma parent?_eq_none (h : ¬ (a.isNamed = true ∧ '.' ∈ a.chars)) : a.parent? = .ok none := by
  rw [parent?, if_pos]
  rcases not_and_or.1 h with hn | hpoint
  · simp [hn]
  · simp [hpoint]

lemma parent?_eq (hn : a.isNamed = true) (ha : a.chars = front ++ '.' :: rest)
    (hfront : '.' ∉ front) : a.parent? = (parse (String.ofList rest)).map some := by
  have hpass : ∀ c ∈ front, (c != '.') = true := fun c hc =>
    bne_iff_ne.2 (ne_of_mem_of_not_mem hc hfront)
  have hdrop : (a.chars.dropWhile (· != '.')).drop 1 = rest := by
    rw [ha, List.dropWhile_append_of_pos hpass]
    rfl
  rw [parent?, if_neg (by simp [hn, ha]), hdrop]

/-- What stands behind the first point is the next account above. -/
lemma next_of_front (hfront : '.' ∉ front) (hp : p.isNamed = true)
    (ha : a.chars = front ++ '.' :: p.chars) (hq : a.isSubAccountOf q = true) :
    p = q ∨ p.isSubAccountOf q = true := by
  obtain ⟨-, hqn, front', ha'⟩ := isSubAccountOf_iff.1 hq
  rcases List.append_eq_append_iff.1 (ha.symm.trans ha') with
    ⟨between, -, h⟩ | ⟨between, hbetween, h⟩
  · exact eq_or_isSubAccountOf between hp hqn h
  · -- a point further in front would be in the first segment
    cases between with
    | nil => exact eq_or_isSubAccountOf [] hp hqn h.symm
    | cons c between =>
      obtain ⟨rfl, -⟩ := List.cons.inj h
      exact absurd (by simp [hbetween]) hfront

/-- A name behind the first point is the parent's. -/
lemma exists_parent (hn : a.isNamed = true) (ha : a.chars = front ++ '.' :: rest)
    (hfront : '.' ∉ front) (hrest : Sound rest) :
    ∃ p, a.parent? = .ok (some p) ∧ a.isSubAccountOf p = true ∧
      ∀ q, a.isSubAccountOf q = true → p = q ∨ p.isSubAccountOf q = true := by
  have hvalid : fault? (String.ofList rest) = none :=
    fault?_eq_none_iff.2 (.inr (.inr (by rwa [String.toList_ofList])))
  set p : AccountId := ⟨String.ofList rest, hvalid⟩
  have hchars : p.chars = rest := String.toList_ofList
  have hlen : p.chars.length < 64 := by
    have hmax := (sound_of_isNamed hn).le_max
    rw [ha, List.length_append, List.length_cons] at hmax
    rw [hchars]
    omega
  have hp : p.isNamed = true := isNamed_of_sound (hchars ▸ hrest) hlen
  have happ : a.chars = front ++ '.' :: p.chars := by rw [hchars, ha]
  refine ⟨p, ?_, isSubAccountOf_iff.2 ⟨hn, hp, front, happ⟩, fun q => next_of_front hfront hp happ⟩
  rw [parent?_eq hn ha hfront]
  rcases parse_cases (String.ofList rest) with ⟨h, hparse⟩ | ⟨f, hf, -⟩
  · rw [hparse]
    rfl
  · cases hvalid.symm.trans hf

/-- The text behind the first point is refused, or is an account of another kind. -/
lemma Orphaned.parent? (h : Orphaned a) :
    (∃ p, a.parent? = .ok (some p) ∧ a.isSubAccountOf p = false) ∨
      ∃ m, a.parent? = .error (.plain .account m) := by
  obtain ⟨hn, front, rest, hfront, ha, hrest⟩ := h
  rw [parent?_eq hn ha hfront]
  rcases parse_cases (String.ofList rest) with ⟨hvalid, hparse⟩ | ⟨f, -, hparse⟩
  · refine .inl ⟨⟨_, hvalid⟩, by rw [hparse]; rfl, ?_⟩
    rw [Bool.eq_false_iff, ne_eq, isSubAccountOf_iff]
    rintro ⟨-, hp, -⟩
    have hsound := sound_of_isNamed hp
    rw [chars, String.toList_ofList] at hsound
    rcases hrest with hmin | hstart
    · exact absurd hsound.two_le (by omega)
    · exact hsound.start hstart
  · exact .inr ⟨_, by rw [hparse]; rfl⟩

/-- **The parent is the next account above**, and there is none of a top-level account or of
hexadecimal digits. Where no name stands behind the first point, and only there, the text is refused
or found to be an account of another kind. -/
theorem parent_outcome (a : AccountId) :
    (¬ (a.isNamed = true ∧ '.' ∈ a.chars) ∧ a.parent? = .ok none) ∨
    ((a.isNamed = true ∧ '.' ∈ a.chars) ∧ ¬ Orphaned a ∧
      ∃ p, a.parent? = .ok (some p) ∧ a.isSubAccountOf p = true ∧
        ∀ q, a.isSubAccountOf q = true → p = q ∨ p.isSubAccountOf q = true) ∨
    (Orphaned a ∧ ((∃ p, a.parent? = .ok (some p) ∧ a.isSubAccountOf p = false) ∨
      ∃ m, a.parent? = .error (.plain .account m))) := by
  by_cases h : a.isNamed = true ∧ '.' ∈ a.chars
  · refine .inr ?_
    by_cases ho : Orphaned a
    · exact .inr ⟨ho, ho.parent?⟩
    · obtain ⟨front, rest, ha, hfront⟩ := List.eq_append_cons_of_mem h.2
      obtain ⟨hmin, hstart⟩ : ¬ rest.length < 2 ∧ ¬ "0x".toList <+: rest :=
        not_or.1 fun hrest => ho ⟨h.1, front, rest, hfront, ha, hrest⟩
      have hsound : Sound (front ++ '.' :: rest) := ha ▸ sound_of_isNamed h.1
      exact .inl ⟨h, ho, exists_parent h.1 ha hfront (hsound.behind (not_lt.1 hmin) hstart)⟩
  · exact .inl ⟨h, parent?_eq_none h⟩

def shortTop : AccountId := ⟨"alice.a", by decide +kernel⟩

/-- The account above `alice.a` would have a name of one character. -/
theorem shortTop_parentless :
    ¬ ∀ a : AccountId, (¬ (a.isNamed = true ∧ '.' ∈ a.chars) ∧ a.parent? = .ok none) ∨
      ((a.isNamed = true ∧ '.' ∈ a.chars) ∧
        ∃ p, a.parent? = .ok (some p) ∧ a.isSubAccountOf p = true) := by
  intro h
  have hnamed : shortTop.isNamed = true ∧ '.' ∈ shortTop.chars := by decide +kernel
  have horphaned : Orphaned shortTop :=
    ⟨hnamed.1, "alice".toList, "a".toList, by decide, by decide +kernel, .inl (by decide)⟩
  obtain ⟨p, hp, hsub⟩ := ((h shortTop).resolve_left fun hnot => hnot.1 hnamed).2
  rcases horphaned.parent? with ⟨p', hp', hnot⟩ | ⟨m, hm⟩
  · cases hp.symm.trans hp'
    cases hsub.symm.trans hnot
  · cases hp.symm.trans hm

end LedgerClient.AccountId
