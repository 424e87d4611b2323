import LedgerClient.Dialogue.Run
import LedgerClient.Proofs.Dialogue.Moves
import Mathlib.Logic.Function.Basic

/-!
Several parties on one state. Whoever is next makes one move, so that a run is some interleaving of
the parties' moves. Seen as a whole its moves are chained; seen from one party they are a run of
that party alone, among whatever the others did in between.
-/

namespace LedgerClient

structure Company (ι σ δ α : Type) where
  state : σ
  party : ι → Dialogue σ δ α

variable {ι σ δ α : Type}

/-- The moves that one of the parties made. -/
def own [DecidableEq ι] (i : ι) (ms : List (ι × Move σ δ)) : List (Move σ δ) :=
  (ms.filter (·.1 = i)).map (·.2)

section Own

variable [DecidableEq ι] {i j : ι} {m : Move σ δ} {ms ns : List (ι × Move σ δ)}

@[simp] lemma own_cons_self : own i ((i, m) :: ms) = m :: own i ms := by simp [own]

lemma own_cons_of_ne (h : j ≠ i) : own i ((j, m) :: ms) = own i ms := by simp [own, h]

@[simp] lemma own_append : own i (ms ++ ns) = own i ms ++ own i ns := by simp [own]

@[simp] lemma own_map_self (ns : List (Move σ δ)) : own i (ns.map (i, ·)) = ns := by
  induction ns with
  | nil => rfl
  | cons m ns ih => rw [List.map_cons, own_cons_self, ih]

@[simp] lemma mem_own : m ∈ own i ms ↔ (i, m) ∈ ms := by simp [own]

end Own

namespace Company

variable [DecidableEq ι]

/-- One party makes one move, in the state as it stands. -/
inductive Turn : Company ι σ δ α → ι × Move σ δ → Company ι σ δ α → Prop
  | mk {c : Company ι σ δ α} {i : ι} {m : Move σ δ} {x : Dialogue σ δ α} :
    m.Finds c.state → (c.party i).Makes m x →
    Turn c (i, m) ⟨m.after c.state, Function.update c.party i x⟩

inductive Run : Company ι σ δ α → List (ι × Move σ δ) → Company ι σ δ α → Prop
  | nil (c : Company ι σ δ α) : Run c [] c
  | cons {c d e : Company ι σ δ α} {p : ι × Move σ δ} {ms : List (ι × Move σ δ)} :
    Turn c p d → Run d ms e → Run c (p :: ms) e

variable {c d : Company ι σ δ α} {ms : List (ι × Move σ δ)}

lemma Run.chained (h : Run c ms d) : Chained c.state (ms.map (·.2)) := by
  induction h with
  | nil c => trivial
  | cons ht _ ih => cases ht with | mk hf _ => exact ⟨hf, ih⟩

/-- Each party's own moves are a run of its own. -/
theorem Run.own (h : Run c ms d) (i : ι) : (c.party i).Runs (own i ms) (d.party i) := by
  induction h with
  | nil c => exact .nil _
  | cons ht _ ih =>
    cases ht with
    | @mk j m x hf hm =>
      by_cases hij : j = i
      · subst hij
        rw [own_cons_self]
        simp only [Function.update_self] at ih
        exact .cons hm ih
      · rw [own_cons_of_ne hij]
        simpa only [Function.update_of_ne (Ne.symm hij)] using ih

lemma Run.append {e : Company ι σ δ α} {ns : List (ι × Move σ δ)} (h : Run c ms d)
    (h' : Run d ns e) : Run c (ms ++ ns) e := by
  induction h with
  | nil c => exact h'
  | cons ht _ ih => exact .cons ht (ih h')

lemma Run.head {i : ι} {m : Move σ δ} {x y : Dialogue σ δ α} (hp : c.party i = x)
    (hf : m.Finds c.state) (hm : x.Makes m y)
    (h : Run ⟨m.after c.state, Function.update c.party i y⟩ ms d) : Run c ((i, m) :: ms) d :=
  .cons (.mk hf (hp ▸ hm)) h

lemma Run.change {i : ι} {f : σ → σ} {k : σ → Dialogue σ δ α} (hp : c.party i = .step f k)
    (h : Run ⟨f c.state, Function.update c.party i (k c.state)⟩ ms d) :
    Run c ((i, .change f c.state) :: ms) d :=
  .head hp rfl (.change f k c.state) h

lemma Run.exchange {i : ι} {q : Request} {k : Reply → Dialogue σ δ α} (r : Reply)
    (hp : c.party i = .ask q k) (h : Run ⟨c.state, Function.update c.party i (k r)⟩ ms d) :
    Run c ((i, .exchange q r) :: ms) d :=
  .head hp trivial (.exchange q k r) h

end Company

/-! ### One party alone -/

namespace Dialogue

/-- A run of one party with the state all to itself. -/
inductive Solo : σ → Dialogue σ δ α → List (Move σ δ) → σ → Dialogue σ δ α → Prop
  | nil (s : σ) (x : Dialogue σ δ α) : Solo s x [] s x
  | change {s t : σ} {f : σ → σ} {k : σ → Dialogue σ δ α} {ms : List (Move σ δ)}
    {y : Dialogue σ δ α} : Solo (f s) (k s) ms t y → Solo s (step f k) (.change f s :: ms) t y
  | exchange {s t : σ} {q : Request} {k : Reply → Dialogue σ δ α} {ms : List (Move σ δ)}
    {y : Dialogue σ δ α} (r : Reply) :
    Solo s (k r) ms t y → Solo s (ask q k) (.exchange q r :: ms) t y
  | pause {s t : σ} {d : δ} {x y : Dialogue σ δ α} {ms : List (Move σ δ)} :
    Solo s x ms t y → Solo s (Dialogue.pause d x) (.pause d :: ms) t y

variable {β : Type} {s t u : σ} {ms ns : List (Move σ δ)}

lemma Solo.bind {x : Dialogue σ δ α} {a : α} {f : α → Dialogue σ δ β} {y : Dialogue σ δ β}
    (h : Solo s x ms t (done a)) (hf : Solo t (f a) ns u y) :
    Solo s (x.bind f) (ms ++ ns) u y := by
  generalize hd : done a = z at h
  induction h with
  | nil s x =>
    subst hd
    exact hf
  | change _ ih => exact .change (ih hf hd)
  | exchange r _ ih => exact .exchange r (ih hf hd)
  | pause _ ih => exact .pause (ih hf hd)

lemma Solo.runs {x y : Dialogue σ δ α} (h : Solo s x ms t y) : Runs x ms y := by
  induction h with
  | nil s x => exact .nil x
  | change _ ih => exact .cons (.change ..) ih
  | exchange r _ ih => exact .cons (.exchange ..) ih
  | pause _ ih => exact .cons (.pause ..) ih

/-- Every dialogue comes to an end, in every state and with whatever replies. -/
theorem play_solo {P : Reply → Prop} {otherwise : Reply} (x : Dialogue σ δ α) (s : σ)
    {rs : List Reply} (ho : P otherwise) (hr : ∀ r ∈ rs, P r) :
    ∃ ms, Solo s x ms (x.play otherwise s rs).state (done (x.play otherwise s rs).result) ∧
      ∀ m ∈ ms, m.Meets P := by
  induction x generalizing s rs with
  | done a => exact ⟨[], .nil _ _, by simp⟩
  | step f k ih =>
    obtain ⟨ms, h, hm⟩ := ih s (f s) hr
    exact ⟨_, .change h, List.forall_mem_cons.2 ⟨trivial, hm⟩⟩
  | ask q k ih =>
    cases rs with
    | nil =>
      obtain ⟨ms, h, hm⟩ := ih otherwise s hr
      exact ⟨_, .exchange otherwise h, List.forall_mem_cons.2 ⟨ho, hm⟩⟩
    | cons r rs =>
      obtain ⟨hr0, hr⟩ := List.forall_mem_cons.1 hr
      obtain ⟨ms, h, hm⟩ := ih r s hr
      exact ⟨_, .exchange r h, List.forall_mem_cons.2 ⟨hr0, hm⟩⟩
  | pause d k ih =>
    obtain ⟨ms, h, hm⟩ := ih s hr
    exact ⟨_, .pause h, List.forall_mem_cons.2 ⟨trivial, hm⟩⟩

/-- A run of one party alone is a run of a company in which nobody else moves. -/
theorem Solo.run {ι : Type} [DecidableEq ι] {p : ι → Dialogue σ δ α} {i : ι}
    {y : Dialogue σ δ α} (h : Solo s (p i) ms t y) :
    Company.Run ⟨s, p⟩ (ms.map (i, ·)) ⟨t, Function.update p i y⟩ := by
  generalize hx : p i = x at h
  induction h generalizing p with
  | nil s x =>
    rw [← hx, Function.update_eq_self]
    exact .nil _
  | change _ ih =>
    refine .head hx rfl (.change ..) ?_
    simpa only [Function.update_idem, Move.after] using ih (Function.update_self i _ p)
  | exchange r _ ih =>
    refine .head hx trivial (.exchange ..) ?_
    simpa only [Function.update_idem, Move.after] using ih (Function.update_self i _ p)
  | pause _ ih =>
    refine .head hx trivial (.pause ..) ?_
    simpa only [Function.update_idem, Move.after] using ih (Function.update_self i _ p)

end Dialogue

end LedgerClient
