import LedgerClient.Dialogue.Basic
import Mathlib.Tactic.Common

/-!
What a party is seen to do. A move carries what it met with: the state that a change found, or the
reply to a request. A discipline says how each move changes what the party has in hand; a dialogue
that follows one keeps to it in every run, finished or not.
-/

namespace LedgerClient

inductive Move (σ δ : Type) where
  | change (f : σ → σ) (found : σ)
  | exchange (q : Request) (r : Reply)
  | pause (d : δ)

variable {σ δ α β η : Type}

namespace Move

/-- The move can be made in this state. -/
def Finds : Move σ δ → σ → Prop
  | change _ t, s => t = s
  | _, _ => True

/-- The state that the move leaves behind. -/
def after : Move σ δ → σ → σ
  | change f _, s => f s
  | _, s => s

/-- The reply, if there is one, is as described. -/
def Meets (sound : Reply → Prop) : Move σ δ → Prop
  | exchange _ r => sound r
  | _ => True

lemma Meets.imp {P Q : Reply → Prop} {m : Move σ δ} (hm : m.Meets P) (h : ∀ r, P r → Q r) :
    m.Meets Q := by
  cases m with
  | exchange q r => exact h r hm
  | change f s | pause d => trivial

end Move

/-- Each move finds the state that the ones before it left behind. -/
def Chained : σ → List (Move σ δ) → Prop
  | _, [] => True
  | s, m :: ms => m.Finds s ∧ Chained (m.after s) ms

lemma Chained.append {s : σ} {ms ns : List (Move σ δ)} (h : Chained s (ms ++ ns)) :
    Chained s ms ∧ ∃ t, Chained t ns := by
  induction ms generalizing s with
  | nil => exact ⟨trivial, s, h⟩
  | cons m ms ih =>
    obtain ⟨hm, h⟩ := h
    obtain ⟨h1, h2⟩ := ih h
    exact ⟨⟨hm, h1⟩, h2⟩

namespace Dialogue

/-! ### Runs -/

inductive Makes : Dialogue σ δ α → Move σ δ → Dialogue σ δ α → Prop
  | change (f : σ → σ) (k : σ → Dialogue σ δ α) (s : σ) : Makes (step f k) (.change f s) (k s)
  | exchange (q : Request) (k : Reply → Dialogue σ δ α) (r : Reply) :
    Makes (ask q k) (.exchange q r) (k r)
  | pause (d : δ) (k : Dialogue σ δ α) : Makes (pause d k) (.pause d) k

/-- The moves lead from one dialogue to what is left of it. -/
inductive Runs : Dialogue σ δ α → List (Move σ δ) → Dialogue σ δ α → Prop
  | nil (x : Dialogue σ δ α) : Runs x [] x
  | cons {x y z : Dialogue σ δ α} {m : Move σ δ} {ms : List (Move σ δ)} :
    Makes x m y → Runs y ms z → Runs x (m :: ms) z

/-- What a dialogue came to, if it has ended. -/
def result? : Dialogue σ δ α → Option α
  | done a => some a
  | _ => none

lemma runs_done {a : α} {ms : List (Move σ δ)} {y : Dialogue σ δ α} (h : Runs (done a) ms y) :
    ms = [] ∧ y = done a := by
  cases h with
  | nil => exact ⟨rfl, rfl⟩
  | cons hm _ => cases hm

lemma runs_step {f : σ → σ} {k : σ → Dialogue σ δ α} {ms : List (Move σ δ)}
    {y : Dialogue σ δ α} (h : Runs (step f k) ms y) :
    (ms = [] ∧ y = step f k) ∨ ∃ s ms', ms = .change f s :: ms' ∧ Runs (k s) ms' y := by
  cases h with
  | nil => exact .inl ⟨rfl, rfl⟩
  | cons hm hr =>
    cases hm
    exact .inr ⟨_, _, rfl, hr⟩

/-- A run of two dialogues in turn has not come to the end of the first one, or has gone through
it. -/
lemma runs_bind {x : Dialogue σ δ α} {f : α → Dialogue σ δ β} {ms : List (Move σ δ)}
    {y : Dialogue σ δ β} (h : Runs (x.bind f) ms y) :
    (y.result? = none ∧ ∃ x', Runs x ms x') ∨
    ∃ a ms₁ ms₂, ms = ms₁ ++ ms₂ ∧ Runs x ms₁ (done a) ∧ Runs (f a) ms₂ y := by
  induction ms generalizing x with
  | nil =>
    cases x with
    | done a => exact .inr ⟨a, [], [], rfl, .nil _, h⟩
    | step g k | ask q k | pause d k =>
      cases h
      exact .inl ⟨rfl, _, .nil _⟩
  | cons m ms ih =>
    cases x with
    | done a => exact .inr ⟨a, [], _, rfl, .nil _, h⟩
    | step g k | ask q k | pause d k =>
      cases h with
      | cons hm hr =>
        cases hm
        rcases ih hr with ⟨hy, x', h1⟩ | ⟨a, ms₁, ms₂, rfl, h1, h2⟩
        · exact .inl ⟨hy, x', .cons (by constructor) h1⟩
        · exact .inr ⟨a, _ :: ms₁, ms₂, rfl, .cons (by constructor) h1, h2⟩

/-! ### Finished runs -/

lemma runs_done_iff {a b : α} {ms : List (Move σ δ)} :
    Runs (done a) ms (done b) ↔ ms = [] ∧ a = b := by
  constructor
  · intro h
    obtain ⟨rfl, he⟩ := runs_done h
    exact ⟨rfl, (done.inj he).symm⟩
  · rintro ⟨rfl, rfl⟩
    exact .nil _

lemma runs_step_iff {f : σ → σ} {k : σ → Dialogue σ δ α} {a : α} {ms : List (Move σ δ)} :
    Runs (step f k) ms (done a) ↔ ∃ s ns, ms = .change f s :: ns ∧ Runs (k s) ns (done a) := by
  constructor
  · intro h
    rcases runs_step h with ⟨-, he⟩ | h
    · cases he
    · exact h
  · rintro ⟨s, ns, rfl, h⟩
    exact .cons (.change f k s) h

lemma Runs.bind {x : Dialogue σ δ α} {a : α} {f : α → Dialogue σ δ β} {y : Dialogue σ δ β}
    {ms ns : List (Move σ δ)} (h : Runs x ms (done a)) (hf : Runs (f a) ns y) :
    Runs (x.bind f) (ms ++ ns) y := by
  generalize hd : done a = z at h
  induction h with
  | nil x =>
    subst hd
    exact hf
  | cons hm _ ih =>
    refine .cons ?_ (ih hd)
    cases hm <;> constructor

/-- A finished run of two dialogues in turn is one of each. -/
lemma runs_bind_iff {x : Dialogue σ δ α} {f : α → Dialogue σ δ β} {b : β}
    {ms : List (Move σ δ)} : Runs (x.bind f) ms (done b) ↔
      ∃ a ms₁ ms₂, ms = ms₁ ++ ms₂ ∧ Runs x ms₁ (done a) ∧ Runs (f a) ms₂ (done b) := by
  constructor
  · intro h
    rcases runs_bind h with ⟨hy, -⟩ | h
    · cases hy
    · exact h
  · rintro ⟨a, ms₁, ms₂, rfl, hx, hf⟩
    exact hx.bind hf

/-! ### Disciplines -/

/-- Which replies are expected, and how a move changes what is in hand. -/
structure Discipline (σ δ η : Type) where
  sound : Reply → Prop
  rule : η → Move σ δ → η → Prop

inductive Discipline.Leads (D : Discipline σ δ η) : η → List (Move σ δ) → η → Prop
  | nil (h : η) : Leads D h [] h
  | cons {h h' h'' : η} {m : Move σ δ} {ms : List (Move σ δ)} :
    D.rule h m h' → Leads D h' ms h'' → Leads D h (m :: ms) h''

lemma Discipline.Leads.split {D : Discipline σ δ η} {h h' : η} {ms ns : List (Move σ δ)}
    (hl : D.Leads h (ms ++ ns) h') : ∃ k, D.Leads h ms k ∧ D.Leads k ns h' := by
  induction ms generalizing h with
  | nil => exact ⟨h, .nil h, hl⟩
  | cons m ms ih =>
    cases hl with
    | cons hr hl =>
      obtain ⟨k, h1, h2⟩ := ih hl
      exact ⟨k, .cons hr h1, h2⟩

/-- What is in hand before and behind one of the moves. -/
lemma Discipline.Leads.at {D : Discipline σ δ η} {h h' : η} {m : Move σ δ}
    {ms ns : List (Move σ δ)} (hl : D.Leads h (ms ++ m :: ns) h') :
    ∃ k k', D.Leads h ms k ∧ D.rule k m k' ∧ D.Leads k' ns h' := by
  obtain ⟨k, h1, h2⟩ := hl.split
  cases h2 with
  | cons hr h3 => exact ⟨k, _, h1, hr, h3⟩

/-- With something in hand, every move obeys the rule, and at the end `post` holds. -/
def Follows (D : Discipline σ δ η) (post : η → α → Prop) : η → Dialogue σ δ α → Prop
  | h, done a => post h a
  | h, step f k => ∀ s, ∃ h', D.rule h (.change f s) h' ∧ Follows D post h' (k s)
  | h, ask q k => ∀ r, D.sound r → ∃ h', D.rule h (.exchange q r) h' ∧ Follows D post h' (k r)
  | h, pause d k => ∃ h', D.rule h (.pause d) h' ∧ Follows D post h' k

variable {D : Discipline σ δ η} {post : η → α → Prop} {h : η}

namespace Follows

/-- Where two dialogues agree on the hand in between, their disciplines compose. -/
lemma bind {mid : η → α → Prop} {post : η → β → Prop} {f : α → Dialogue σ δ β}
    {x : Dialogue σ δ α} (hx : x.Follows D mid h)
    (hf : ∀ g a, mid g a → (f a).Follows D post g) : (x.bind f).Follows D post h := by
  induction x generalizing h with
  | done a => exact hf h a hx
  | step g k ih =>
    intro s
    obtain ⟨h', h1, h2⟩ := hx s
    exact ⟨h', h1, ih s h2⟩
  | ask q k ih =>
    intro r hr
    obtain ⟨h', h1, h2⟩ := hx r hr
    exact ⟨h', h1, ih r h2⟩
  | pause d k ih =>
    obtain ⟨h', h1, h2⟩ := hx
    exact ⟨h', h1, ih h2⟩

lemma imp {post' : η → α → Prop} {x : Dialogue σ δ α} (hx : x.Follows D post h)
    (hp : ∀ g a, post g a → post' g a) : x.Follows D post' h := by
  induction x generalizing h with
  | done a => exact hp h a hx
  | step f k ih =>
    intro s
    obtain ⟨h', h1, h2⟩ := hx s
    exact ⟨h', h1, ih s h2⟩
  | ask q k ih =>
    intro r hr
    obtain ⟨h', h1, h2⟩ := hx r hr
    exact ⟨h', h1, ih r h2⟩
  | pause d k ih =>
    obtain ⟨h', h1, h2⟩ := hx
    exact ⟨h', h1, ih h2⟩

/-- The step lemma: a move obeys the rule, and the rest of the dialogue the discipline. -/
lemma makes {x y : Dialogue σ δ α} {m : Move σ δ} (hx : x.Follows D post h) (hm : Makes x m y)
    (hs : m.Meets D.sound) : ∃ h', D.rule h m h' ∧ y.Follows D post h' := by
  cases hm with
  | change f k s => exact hx s
  | exchange q k r => exact hx r hs
  | pause d k => exact hx

/-- The run lemma: the moves of any run lead from hand to hand. -/
theorem runs {x y : Dialogue σ δ α} {ms : List (Move σ δ)} (hx : x.Follows D post h)
    (hr : Runs x ms y) (hs : ∀ m ∈ ms, m.Meets D.sound) :
    ∃ h', D.Leads h ms h' ∧ y.Follows D post h' := by
  induction hr generalizing h with
  | nil x => exact ⟨h, .nil h, hx⟩
  | cons hm _ ih =>
    obtain ⟨h1, hrule, hy⟩ := hx.makes hm (hs _ List.mem_cons_self)
    obtain ⟨h2, hl, hz⟩ := ih hy fun m hm => hs m (List.mem_cons_of_mem _ hm)
    exact ⟨h2, .cons hrule hl, hz⟩

end Follows

/-- Every move is of one sort, whatever is in hand, and the end is as described. -/
def Only (P : Move σ δ → Prop) (Q : α → Prop) (x : Dialogue σ δ α) : Prop :=
  x.Follows ⟨fun _ => True, fun _ m _ => P m⟩ (fun _ => Q) ()

/-- Moves that change nothing in hand are free. -/
lemma Only.follows {P : Move σ δ → Prop} {Q : α → Prop} {x : Dialogue σ δ α} (hx : x.Only P Q)
    (hP : ∀ m, P m → D.rule h m h) : x.Follows D (fun g a => g = h ∧ Q a) h := by
  induction x with
  | done a => exact ⟨rfl, hx⟩
  | step f k ih =>
    intro s
    obtain ⟨_, h1, h2⟩ := hx s
    exact ⟨h, hP _ h1, ih s h2⟩
  | ask q k ih =>
    intro r _
    obtain ⟨_, h1, h2⟩ := hx r trivial
    exact ⟨h, hP _ h1, ih r h2⟩
  | pause d k ih =>
    obtain ⟨_, h1, h2⟩ := hx
    exact ⟨h, hP _ h1, ih h2⟩

lemma Only.runs {P : Move σ δ → Prop} {Q : α → Prop} {x y : Dialogue σ δ α}
    {ms : List (Move σ δ)} (hx : x.Only P Q) (hr : Runs x ms y) : (∀ m ∈ ms, P m) ∧ y.Only P Q := by
  induction hr with
  | nil x => exact ⟨by simp, hx⟩
  | cons hm _ ih =>
    obtain ⟨_, h1, h2⟩ := Follows.makes hx hm (by cases hm <;> trivial)
    obtain ⟨h3, h4⟩ := ih h2
    exact ⟨List.forall_mem_cons.2 ⟨h1, h3⟩, h4⟩

end Dialogue

namespace Act

open Dialogue

variable {D : Discipline σ δ η} {h : η}

/-- Two acts in turn have finished where the first one failed, or where the second one ended. -/
lemma runs_bind_iff {x : Act σ δ α} {f : α → Act σ δ β} {w : Except Error β}
    {ms : List (Move σ δ)} : (x >>= f).run.Runs ms (done w) ↔
      (∃ e, x.run.Runs ms (done (.error e)) ∧ w = .error e) ∨
      ∃ a ms₁ ms₂, ms = ms₁ ++ ms₂ ∧ x.run.Runs ms₁ (done (.ok a)) ∧
        (f a).run.Runs ms₂ (done w) := by
  refine Dialogue.runs_bind_iff.trans ?_
  constructor
  · rintro ⟨_ | a, ms₁, ms₂, rfl, hx, hf⟩
    · obtain ⟨rfl, rfl⟩ := runs_done_iff.1 hf
      exact .inl ⟨_, by rwa [List.append_nil], rfl⟩
    · exact .inr ⟨a, ms₁, ms₂, rfl, hx, hf⟩
  · rintro (⟨e, hx, rfl⟩ | ⟨a, ms₁, ms₂, rfl, hx, hf⟩)
    · exact ⟨.error e, ms, [], (List.append_nil ms).symm, hx, .nil _⟩
    · exact ⟨.ok a, ms₁, ms₂, rfl, hx, hf⟩

lemma runs_andThen_iff {x : Act σ δ α} {f : Except Error α → Act σ δ β} {w : Except Error β}
    {ms : List (Move σ δ)} : (x.andThen f).run.Runs ms (done w) ↔
      ∃ r ms₁ ms₂, ms = ms₁ ++ ms₂ ∧ x.run.Runs ms₁ (done r) ∧ (f r).run.Runs ms₂ (done w) :=
  Dialogue.runs_bind_iff

lemma ofExcept_bind (r : Except Error α) (f : α → Except Error β) :
    (do ofExcept (f (← ofExcept r)) : Act σ δ β) = ofExcept (r.bind f) := by
  cases r <;> rfl

/-- The rule for two acts in turn: the second one starts where the first one succeeds. -/
lemma follows_bind {x : Act σ δ α} {f : α → Act σ δ β} {mid : η → Except Error α → Prop}
    {post : η → Except Error β → Prop} (hx : x.run.Follows D mid h)
    (ho : ∀ g a, mid g (.ok a) → (f a).run.Follows D post g)
    (he : ∀ g e, mid g (.error e) → post g (.error e)) : (x >>= f).run.Follows D post h :=
  hx.bind fun g r hm => match r with
    | .ok a => ho g a hm
    | .error e => he g e hm

lemma follows_andThen {x : Act σ δ α} {f : Except Error α → Act σ δ β}
    {mid : η → Except Error α → Prop} {post : η → Except Error β → Prop}
    (hx : x.run.Follows D mid h) (hf : ∀ g r, mid g r → (f r).run.Follows D post g) :
    (x.andThen f).run.Follows D post h := hx.bind hf

end Act

end LedgerClient
