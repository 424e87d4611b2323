import LedgerClient.Proofs.Dialogue.Company
import LedgerClient.Retry.Loop
import Mathlib.Data.List.Forall2

/-!
Dialogues that go alike from states that differ in what they do not go by: the same steps and
pauses, the same requests but for their numbers, and with the same replies the same end. What some
parties of a company do is what they do without the others, as long as the others leave alone what
these parties go by.
-/

namespace LedgerClient

variable {σ δ α β ι : Type} {R : σ → σ → Prop}

/-- The same move, met with in related states. -/
def Move.Alike (R : σ → σ → Prop) : Move σ δ → Move σ δ → Prop
  | change f s, change g t => f = g ∧ R s t
  | exchange q r, exchange q' r' => q' = { q with id := q'.id } ∧ r = r'
  | pause d, pause e => d = e
  | _, _ => False

namespace Dialogue

def Alike (R : σ → σ → Prop) : Dialogue σ δ α → Dialogue σ δ α → Prop
  | done a, done b => a = b
  | step f k, step g k' => f = g ∧ ∀ s t, R s t → R (f s) (f t) ∧ Alike R (k s) (k' t)
  | ask q k, ask q' k' => q' = { q with id := q'.id } ∧ ∀ r, Alike R (k r) (k' r)
  | pause d k, pause e k' => d = e ∧ Alike R k k'
  | _, _ => False

variable {x y : Dialogue σ δ α}

lemma Alike.result?_eq (h : x.Alike R y) : x.result? = y.result? := by
  cases x <;> cases y <;> simp_all [Alike, result?]

lemma Alike.bind {f g : α → Dialogue σ δ β} (h : x.Alike R y)
    (hf : ∀ a, (f a).Alike R (g a)) : (x.bind f).Alike R (y.bind g) := by
  induction x generalizing y with
  | done a =>
    cases y with
    | done b =>
      obtain rfl : a = b := h
      exact hf a
    | step | ask | pause => exact h.elim
  | step e k ih =>
    cases y with
    | step e' k' =>
      obtain ⟨rfl, hk⟩ := h
      exact ⟨rfl, fun s t hst => ⟨(hk s t hst).1, ih s (hk s t hst).2⟩⟩
    | done | ask | pause => exact h.elim
  | ask q k ih =>
    cases y with
    | ask q' k' => exact ⟨h.1, fun r => ih r (h.2 r)⟩
    | done | step | pause => exact h.elim
  | pause d k ih =>
    cases y with
    | pause d' k' => exact ⟨h.1, ih h.2⟩
    | done | step | ask => exact h.elim

/-- The step lemma: what one of them does from a state, the other does from a related one. -/
lemma Alike.makes (h : x.Alike R y) {m : Move σ δ} {x' : Dialogue σ δ α} (hm : x.Makes m x')
    {s t : σ} (hs : m.Finds s) (hst : R s t) : ∃ m' y', y.Makes m' y' ∧ m'.Finds t ∧
      m.Alike R m' ∧ R (m.after s) (m'.after t) ∧ x'.Alike R y' := by
  cases hm with
  | change f k s' =>
    obtain rfl : s' = s := hs
    cases y with
    | step g k' =>
      obtain ⟨rfl, hk⟩ := h
      exact ⟨_, _, .change f k' t, rfl, ⟨rfl, hst⟩, hk s' t hst⟩
    | done | ask | pause => exact h.elim
  | exchange q k r =>
    cases y with
    | ask q' k' => exact ⟨_, _, .exchange q' k' r, trivial, ⟨h.1, rfl⟩, hst, h.2 r⟩
    | done | step | pause => exact h.elim
  | pause d k =>
    cases y with
    | pause d' k' => exact ⟨_, _, .pause d' k', trivial, h.1, hst, h.2⟩
    | done | step | ask => exact h.elim

end Dialogue

namespace Act

/-- The act goes alike from all states that are related. -/
abbrev Steady (R : σ → σ → Prop) (x : Act σ δ α) : Prop := x.run.Alike R x.run

lemma Steady.bind {x : Act σ δ α} {f : α → Act σ δ β} (hx : x.Steady R)
    (hf : ∀ a, (f a).Steady R) : (x >>= f).Steady R :=
  Dialogue.Alike.bind hx fun
    | .ok a => hf a
    | .error _ => rfl

lemma steady_ofExcept (r : Except Error α) : (ofExcept r : Act σ δ α).Steady R := rfl

end Act

/-- What is repeated goes alike if each attempt does. -/
lemma RetryPolicy.attemptsFrom_steady [Span δ] (p : RetryPolicy δ) {f : Nat → Act σ δ α}
    (hf : ∀ n, (f n).Steady R) (left n : Nat) (latest : Option Error) :
    (p.attemptsFrom f left n latest).Steady R := by
  induction left generalizing n latest with
  | zero => rfl
  | succ left ih =>
    refine Dialogue.Alike.bind (hf n) fun r => ?_
    cases r with
    | ok a => rfl
    | error e =>
      dsimp only
      split
      · rfl
      · split
        · exact ih _ _
        · cases p.delay n with
          | error e' => rfl
          | ok d => exact ⟨rfl, ih _ _⟩

/-! ### Companies -/

/-- The same party makes the same move. -/
abbrev AlikeTurns (R : σ → σ → Prop) (p q : ι × Move σ δ) : Prop := p.1 = q.1 ∧ p.2.Alike R q.2

/-- The same parties make the moves. -/
lemma alike_forall {P : ι → Prop} {ms ns : List (ι × Move σ δ)}
    (h : List.Forall₂ (AlikeTurns R) ms ns) (hms : ∀ q ∈ ms, P q.1) : ∀ q ∈ ns, P q.1 := by
  induction h with
  | nil => exact hms
  | cons hpq _ ih =>
    obtain ⟨hfirst, hrest⟩ := List.forall_mem_cons.1 hms
    exact List.forall_mem_cons.2 ⟨hpq.1 ▸ hfirst, ih hrest⟩

variable [DecidableEq ι]

lemma own_filter {P : ι → Prop} [DecidablePred P] {i : ι} (hi : P i) (ms : List (ι × Move σ δ)) :
    own i (ms.filter fun q => P q.1) = own i ms := by
  rw [own, own, List.filter_filter]
  refine congrArg _ (List.filter_congr fun q _ => ?_)
  by_cases h : q.1 = i
  · simp [h, hi]
  · simp [h]

lemma own_alike {ms ns : List (ι × Move σ δ)} (h : List.Forall₂ (AlikeTurns R) ms ns) (i : ι) :
    List.Forall₂ (Move.Alike R) (own i ms) (own i ns) := by
  induction h with
  | nil => exact .nil
  | @cons p q ms ns hpq _ ih =>
    obtain ⟨j, m⟩ := p
    obtain ⟨j', m'⟩ := q
    obtain ⟨rfl, hm⟩ : j = j' ∧ m.Alike R m' := hpq
    by_cases hj : j = i
    · subst hj
      rw [own_cons_self, own_cons_self]
      exact .cons hm ih
    · rwa [own_cons_of_ne hj, own_cons_of_ne hj]

/-- The run lemma: the parties singled out make their moves of any run without the others as well,
if no other party changes what they go by. -/
theorem Company.Run.among {P : ι → Prop} [DecidablePred P] {c d c' : Company ι σ δ α}
    {ms : List (ι × Move σ δ)} (h : Run c ms d)
    (hrest : ∀ q ∈ ms, ¬ P q.1 → ∀ s t, q.2.Finds s → R s t → R (q.2.after s) t)
    (hstate : R c.state c'.state) (hparty : ∀ i, P i → (c.party i).Alike R (c'.party i)) :
    ∃ ms' d', Run c' ms' d' ∧
      List.Forall₂ (AlikeTurns R) (ms.filter fun q => P q.1) ms' ∧
      ∀ i, P i → (d.party i).Alike R (d'.party i) := by
  induction h generalizing c' with
  | nil c => exact ⟨[], c', .nil c', .nil, hparty⟩
  | @cons c d e q ms ht _ ih =>
    cases ht with
    | @mk j m x hfinds hmakes =>
      obtain ⟨hfirst, hrest⟩ := List.forall_mem_cons.1 hrest
      by_cases hj : P j
      · -- a move of one of them, which is made here as well
        obtain ⟨m', x', hmakes', hfinds', hm, hafter, hx⟩ :=
          (hparty j hj).makes hmakes hfinds hstate
        let c'' : Company ι σ δ α := ⟨m'.after c'.state, Function.update c'.party j x'⟩
        have hparty' : ∀ i, P i → (Function.update c.party j x i).Alike R (c''.party i) := by
          intro i hi
          change (Function.update c.party j x i).Alike R (Function.update c'.party j x' i)
          by_cases hij : i = j
          · subst hij
            rwa [Function.update_self, Function.update_self]
          · rw [Function.update_of_ne hij, Function.update_of_ne hij]
            exact hparty i hi
        have hafter' : R (m.after c.state) c''.state := hafter
        obtain ⟨ms', d', hrun, hms, hd⟩ := ih hrest hafter' hparty'
        refine ⟨(j, m') :: ms', d', .cons (.mk hfinds' hmakes') hrun, ?_, hd⟩
        rw [List.filter_cons_of_pos (by simpa using hj)]
        exact .cons ⟨rfl, hm⟩ hms
      · -- a move of another party, which is left out
        have hparty' : ∀ i, P i → (Function.update c.party j x i).Alike R (c'.party i) := by
          intro i hi
          rw [Function.update_of_ne (ne_of_mem_of_not_mem (s := {i | P i}) hi hj)]
          exact hparty i hi
        rw [List.filter_cons_of_neg (by simpa using hj)]
        exact ih hrest (hfirst hj _ _ hfinds hstate) hparty'

end LedgerClient
