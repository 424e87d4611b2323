import LedgerClient.Json.Document
import Mathlib.Data.List.TakeWhile
import Mathlib.Data.Option.Basic
import Mathlib.Tactic.Ring

/-!
How far the decoder comes. What it passes without strain is behind it: what becomes of a text then
depends on where the decoder stands and on what is left. So texts with long parts are read piece by
piece, and only the long part takes an induction.
-/

namespace LedgerClient.Json

variable {half : Option Char} {limit : Nat} {l l' : Lexer} {st st' : State}

/-- Where the decoder stands behind some characters that it passes without strain. -/
def advance (half : Option Char) (limit : Nat) :
    Lexer → State → List Char → Option (Lexer × State)
  | l, st, [] => some (l, st)
  | l, st, c :: cs => do
    let (l', ts) ← l.step half c
    guard (ts.isEmpty || (atomStrain? l st).isNone)
    let st' ← st.run ts
    guard (st'.depth ≤ limit)
    advance half limit l' st' cs

lemma advance_cons_eq_some {c : Char} {cs : List Char} {x : Lexer × State} :
    advance half limit l st (c :: cs) = some x ↔
      ∃ l' ts st', l.step half c = some (l', ts) ∧ (ts = [] ∨ atomStrain? l st = none) ∧
        st.run ts = some st' ∧ st'.depth ≤ limit ∧ advance half limit l' st' cs = some x := by
  simp only [advance, bind, Option.bind_eq_some_iff, Option.guard_eq_some', Prod.exists,
    Bool.or_eq_true, List.isEmpty_iff, Option.isNone_iff_eq_none, exists_const, exists_and_left]

lemma advance_append {cs ds : List Char} {x : Lexer × State}
    (h : advance half limit l st cs = some (l', st'))
    (h' : advance half limit l' st' ds = some x) :
    advance half limit l st (cs ++ ds) = some x := by
  induction cs generalizing l st with
  | nil =>
    cases h
    exact h'
  | cons c cs ih =>
    obtain ⟨m, ts, su, hstep, hstrain, hrun, hdepth, hrest⟩ := advance_cons_eq_some.1 h
    exact advance_cons_eq_some.2 ⟨m, ts, su, hstep, hstrain, hrun, hdepth, ih hrest⟩

/-- No strain lies behind. -/
lemma strainFrom_append {cs : List Char} (h : advance half limit l st cs = some (l', st'))
    (ds : List Char) :
    strainFrom half limit l st (cs ++ ds) = strainFrom half limit l' st' ds := by
  induction cs generalizing l st with
  | nil =>
    cases h
    rfl
  | cons c cs ih =>
    obtain ⟨m, ts, su, hstep, hstrain, hrun, hdepth, hrest⟩ := advance_cons_eq_some.1 h
    have hnone : (if ts.isEmpty then none else atomStrain? l st) = none := by
      rcases hstrain with rfl | hstrain <;> simp [*]
    rw [List.cons_append, strainFrom, ← ih hrest]
    simp only [hstep, hnone, hrun, if_neg (Nat.not_lt.2 hdepth)]

/-- What the lexemes of a text come to is what those of the rest come to. -/
lemma run_append {cs : List Char} (h : advance half limit l st cs = some (l', st'))
    (ds : List Char) :
    (Lexer.run half l (cs ++ ds)).bind st.run = (Lexer.run half l' ds).bind st'.run := by
  induction cs generalizing l st with
  | nil =>
    cases h
    rfl
  | cons c cs ih =>
    obtain ⟨m, ts, su, hstep, -, hrun, -, hrest⟩ := advance_cons_eq_some.1 h
    have hlexemes : Lexer.run half l (c :: (cs ++ ds)) =
        (Lexer.run half m (cs ++ ds)).bind fun us => some (ts ++ us) := by
      rw [Lexer.run, hstep]
      rfl
    rw [List.cons_append, hlexemes, Option.bind_assoc, ← ih hrest]
    refine Option.bind_congr fun us _ => ?_
    rw [Option.bind_some, State.run_append, hrun, Option.bind_some]

/-- A text that the decoder passes as a whole is read. -/
theorem parse_of_advance {s : String} {v : Value}
    (h : advance Tolerance.wide.half depthLimit .between (.wantValue []) s.toList =
      some (.between, .after [] v)) : parse s = .ok v := by
  have hstrain : strain? s = none := by
    rw [strain?, ← List.append_nil s.toList, strainFrom_append h]
    split <;> rfl
  have hrun := run_append h []
  rw [List.append_nil] at hrun
  obtain ⟨ts, hts, hst⟩ := Option.bind_eq_some_iff.1 hrun
  have hvalue : parse? s = some v := by
    rw [parse?, parseWith?, tokens?, hts]
    change ((State.wantValue []).run ts).bind State.value? = some v
    rw [hst]
    rfl
  rw [parse, hstrain, hvalue]

/-! ### Strains -/

/-- What the host is said to strain at. -/
inductive IsStrain : Fault → Prop
  | deep (d : Descent) : IsStrain (.tooDeep d)
  | long {count : Nat} : Text.digitLimit < count → IsStrain (.badValue (Text.unreadText count))

lemma overlong?_eq_some {cs : List Char} {n : Nat} (h : overlong? cs = some n) :
    Text.digitLimit < n := by
  simp only [overlong?] at h
  split at h
  · split at h
    · obtain rfl := Option.some.inj h
      assumption
    · cases h
  · cases h

lemma atomStrain?_isStrain {f : Fault} (h : atomStrain? l st = some f) : IsStrain f := by
  unfold atomStrain? at h
  split at h
  · split at h
    · obtain ⟨n, hn, rfl⟩ := Option.map_eq_some_iff.1 h
      exact .long (overlong?_eq_some hn)
    · cases h
  · cases h

lemma strainFrom_isStrain {cs : List Char} {f : Fault}
    (h : strainFrom half limit l st cs = some f) : IsStrain f := by
  induction cs generalizing l st with
  | nil => exact atomStrain?_isStrain h
  | cons c cs ih =>
    rw [strainFrom] at h
    split at h
    · exact atomStrain?_isStrain h
    · split at h
      · rename_i g hg
        obtain rfl := Option.some.inj h
        split at hg
        · cases hg
        · exact atomStrain?_isStrain hg
      · split at h
        · cases h
        · split at h
          · obtain rfl := Option.some.inj h
            exact .deep _
          · exact ih h

lemma strain?_isStrain {s : String} {f : Fault} (h : strain? s = some f) : IsStrain f := by
  rw [strain?] at h
  split at h
  · cases h
  · exact strainFrom_isStrain h

/-! ### Words and numbers -/

lemma atomFront_of_atom {cs : List Char} {v : Value} (h : atom? cs = some v) :
    atomFront cs = cs := by
  have hlast : (List.range (cs.length + 1)).reverse =
      cs.length :: (List.range cs.length).reverse := by
    rw [List.range_succ, List.reverse_append]
    rfl
  simp only [atomFront, hlast, List.find?_cons, List.take_length, h, Option.isSome_some,
    Option.getD_some]

/-- Characters of a word or number stay in it. -/
lemma advance_atomChars {cs : List Char} (hcs : ∀ c ∈ cs, isAtomChar c = true)
    (hst : st.depth ≤ limit) (read : List Char) :
    advance half limit (.inAtom read) st cs = some (.inAtom (cs.reverse ++ read), st) := by
  induction cs generalizing read with
  | nil => rfl
  | cons c cs ih =>
    obtain ⟨hc, hcs⟩ := List.forall_mem_cons.1 hcs
    refine advance_cons_eq_some.2 ⟨.inAtom (c :: read), [], st, ?_, .inl rfl, rfl, hst, ?_⟩
    · rw [Lexer.step, if_pos hc]
    · rw [ih hcs, List.reverse_cons, List.append_assoc]
      rfl

/-- A word or number that is not overlong is read at the character behind it. -/
lemma advance_behindAtom {read cs : List Char} {c : Char} {v : Value} {t : Token}
    {x : Lexer × State} (hv : atom? read.reverse = some v) (hshort : overlong? read.reverse = none)
    (hc : isAtomChar c = false) (ht : fromBetween c = some (.between, [t]))
    (hst : st.run [.atom v, t] = some st') (hdepth : st'.depth ≤ limit)
    (hrest : advance half limit .between st' cs = some x) :
    advance half limit (.inAtom read) st (c :: cs) = some x := by
  refine advance_cons_eq_some.2 ⟨.between, [.atom v, t], st', ?_, .inr ?_, hst, hdepth, hrest⟩
  · simp [Lexer.step, hc, hv, ht]
  · simp [atomStrain?, hshort]

/-! ### Digits -/

section Digits

variable {c : Char} {cs : List Char}

lemma isAtomChar_of_isDigit (h : c.isDigit = true) : isAtomChar c = true := by
  simp [isAtomChar, Char.isAlphanum, h]

/-- A digit is none of these. -/
lemma ne_of_isDigit {d : Char} (h : c.isDigit = true) (hd : d.isDigit = false) : c ≠ d := by
  rintro rfl
  rw [h] at hd
  cases hd

lemma fromBetween_of_isDigit (h : c.isDigit = true) : fromBetween c = some (.inAtom [c], []) := by
  have hne (d : Char) (hd : d.isDigit = false) : c ≠ d := ne_of_isDigit h hd
  have hblank : isJsonBlank c = false := by
    simp [isJsonBlank, hne ' ' rfl, hne '\t' rfl, hne '\n' rfl, hne '\r' rfl]
  have hplain : punctuation? c = none := by
    unfold punctuation?
    split <;> first | rfl | cases h
  simp [fromBetween, hblank, hne '"' rfl, hplain, isAtomChar_of_isDigit h]

/-- Digits without a leading zero are a whole number. -/
lemma atom?_of_digits (hc : c.isDigit = true) (h0 : c ≠ '0') (hcs : ∀ d ∈ cs, d.isDigit = true) :
    atom? (c :: cs) = some (.int (digitsValue (c :: cs))) := by
  have hne (w : List Char) (hw : (w.headD ' ').isDigit = false) : c :: cs ≠ w := by
    rintro rfl
    exact ne_of_isDigit hc hw rfl
  have hall : ∀ d ∈ c :: cs, d.isDigit = true := List.forall_mem_cons.2 ⟨hc, hcs⟩
  have htake : takeDigits (c :: cs) = (c :: cs, []) := by
    rw [takeDigits, List.takeWhile_eq_self_iff.2 hall, List.dropWhile_eq_nil_iff.2 hall]
  have hnumber : number? (c :: cs) = unsigned? false (c :: cs) := by
    unfold number?
    split
    · exact absurd ‹_› (hne _ rfl)
    · rfl
  have hunsigned : unsigned? false (c :: cs) = some (.int (digitsValue (c :: cs))) := by
    simp only [unsigned?, htake]
    split
    · cases ‹_ = _›
    · exact absurd (List.cons.inj ‹_›).1 h0
    · rfl
  rw [atom?, if_neg (hne _ rfl), if_neg (hne _ rfl), if_neg (hne _ rfl), if_neg (hne _ rfl),
    if_neg (hne _ rfl), if_neg (hne _ rfl), hnumber, hunsigned]

lemma overlong?_of_digits (hc : c.isDigit = true) (h0 : c ≠ '0')
    (hcs : ∀ d ∈ cs, d.isDigit = true) (hlen : (c :: cs).length ≤ Text.digitLimit) :
    overlong? (c :: cs) = none := by
  have hall : ∀ d ∈ c :: cs, d.isDigit = true := List.forall_mem_cons.2 ⟨hc, hcs⟩
  have hatom := atom?_of_digits hc h0 hcs
  simp only [overlong?, atomFront_of_atom hatom, hatom, List.filter_eq_self.2 hall,
    if_neg (Nat.not_lt.2 hlen)]

lemma advance_digits (hc : c.isDigit = true) (hcs : ∀ d ∈ cs, d.isDigit = true)
    (hst : st.depth ≤ limit) :
    advance half limit .between st (c :: cs) = some (.inAtom (c :: cs).reverse, st) := by
  refine advance_cons_eq_some.2 ⟨.inAtom [c], [], st, fromBetween_of_isDigit hc, .inl rfl, rfl,
    hst, ?_⟩
  rw [advance_atomChars (fun d hd => isAtomChar_of_isDigit (hcs d hd)) hst, List.reverse_cons]

/-- So many nines are one below a power of ten. -/
lemma digitsValue_nines (n : Nat) : digitsValue (List.replicate n '9') + 1 = 10 ^ n := by
  induction n with
  | zero => rfl
  | succ n ih =>
    have hlast : digitsValue (List.replicate (n + 1) '9') =
        digitsValue (List.replicate n '9') * 10 + 9 := by
      rw [List.replicate_succ', digitsValue, List.foldl_append]
      rfl
    rw [hlast, Nat.pow_succ]
    omega

end Digits

/-! ### Lists within one another -/

/-- Lists within one another, none of them closed. -/
def tower (n : Nat) : String := String.ofList (List.replicate n '[')

/-- Each bracket opens one list more, until there are too many. -/
lemma strainFrom_brackets {n : Nat} {fs : List Frame} (hroom : fs.length < limit)
    (h : limit < fs.length + 1 + n) :
    strainFrom half limit .between (.wantElement fs) (List.replicate n '[') =
      some (.tooDeep .readingList) := by
  have hstep : Lexer.step half .between '[' = some (.between, [.openList]) := rfl
  have hrun (gs : List Frame) :
      (State.wantElement gs).run [.openList] = some (.wantElement (.list [] :: gs)) := rfl
  induction n generalizing fs with
  | zero => omega
  | succ n ih =>
    rw [List.replicate_succ, strainFrom]
    simp only [hstep, hrun, atomStrain?, ite_self]
    have hdepth : (State.wantElement (.list [] :: fs)).depth = fs.length + 2 := rfl
    by_cases hfull : limit < (State.wantElement (.list [] :: fs)).depth
    · exact if_pos hfull
    · rw [if_neg hfull]
      exact ih (by rw [List.length_cons]; omega) (by rw [List.length_cons]; omega)

theorem strain?_tower {n : Nat} (h : depthLimit < n) :
    strain? (tower n) = some (.tooDeep .readingList) := by
  obtain ⟨m, rfl⟩ := Nat.exists_eq_succ_of_ne_zero (Nat.ne_zero_of_lt h)
  have hlen : (tower (m + 1)).length = m + 1 := by simp [tower]
  rw [strain?, if_neg (by rw [hlen]; omega), tower, String.toList_ofList, List.replicate_succ]
  have hroom : ([] : List Frame).length < depthLimit := by decide
  exact strainFrom_brackets hroom (by simpa [Nat.add_comm] using h)

end LedgerClient.Json
