import LedgerClient.Proofs.Node.Moves
import Mathlib.Logic.Function.Basic

/-!
The replies that came last, by what was asked for. A call comes to a result just if the last reply
to its method carries one.
-/

namespace LedgerClient

open Dialogue

variable {δ α : Type}

/-- For each method the reply that came last. -/
def Latest := String → Option Reply

namespace Latest

def empty : Latest := fun _ => none

def see (g : Latest) : Move Shared δ → Latest
  | .exchange q r => Function.update g q.method (some r)
  | _ => g

/-- Moves of one sort, whose replies are in hand. -/
def discipline (sound : Reply → Prop) (P : Move Shared δ → Prop) : Discipline Shared δ Latest :=
  ⟨sound, fun g m g' => P m ∧ g' = g.see m⟩

/-- The replies in hand are the same but for one method. -/
def Agrees (method : String) (g g' : Latest) : Prop := ∀ k, k ≠ method → g' k = g k

lemma agrees_see {g : Latest} {method : String} {q : Request} {r : Reply} (h : q.method = method) :
    g.Agrees method (g.see (.exchange q r : Move Shared δ)) := by
  subst h
  exact fun k hk => Function.update_of_ne hk _ g

lemma see_self {g : Latest} {method : String} {q : Request} {r : Reply} (h : q.method = method) :
    g.see (.exchange q r : Move Shared δ) method = some r := by
  subst h
  exact Function.update_self _ _ g

lemma Agrees.trans {method : String} {g g' g'' : Latest} (h : g.Agrees method g')
    (h' : g'.Agrees method g'') : g.Agrees method g'' := fun k hk => (h' k hk).trans (h k hk)

end Latest

/-- The replies that came last in these moves. -/
def latest (ms : List (Move Shared δ)) : Latest := ms.foldl Latest.see .empty

lemma Latest.leads {sound : Reply → Prop} {P : Move Shared δ → Prop} {g g' : Latest}
    {ms : List (Move Shared δ)} (h : (discipline sound P).Leads g ms g') :
    (∀ m ∈ ms, P m) ∧ g' = ms.foldl see g := by
  induction h with
  | nil g => exact ⟨by simp, rfl⟩
  | cons hr _ ih =>
    obtain ⟨hm, rfl⟩ := hr
    exact ⟨List.forall_mem_cons.2 ⟨hm, ih.1⟩, ih.2⟩

/-- A function of what an act comes to is one of the replies in hand. -/
lemma Act.follows_latest {β : Type} {D : Discipline Shared δ Latest} {I : Latest → Prop}
    {g : Latest} {x : Act Shared δ α} {f : Latest → Option α}
    (hx : x.run.Follows D (fun g w => I g ∧ f g = w.toOption) g) (t : α → β) :
    (do return t (← x)).run.Follows D
      (fun g (w : Except Error β) => I g ∧ (f g).map t = w.toOption) g := by
  refine Act.follows_bind hx (fun g a h => ?_) fun g e h => ?_
  · exact ⟨h.1, by rw [h.2]; rfl⟩
  · exact ⟨h.1, by rw [h.2]; rfl⟩

/-! ### What is described -/

namespace Reply

variable {url : String} {r : Reply} {sh : Shape α}

/-- The result that the reply carries. -/
def result? (url : String) (r : Reply) : Option Value := (r.result url).toOption

/-- What the reply describes, read by a shape. -/
def view? (sh : Shape α) (url : String) (r : Reply) : Option α :=
  (r.result? url).bind fun v => (sh v).toExcept.toOption

end Reply

namespace Node

variable [Span δ] {n : Node δ} {method : String} {params : Value} {g : Latest}
  {P : Move Shared δ → Prop}

/-- The moves of such a call are of this sort. -/
structure Admits (P : Move Shared δ → Prop) (n : Node δ) (method : String) (params : Value) :
    Prop where
  dial : ∀ s, P (.change (·.dial n.line n.timeout) s)
  exchange : ∀ q r, q.method = method → q.params = params → P (.exchange q r)
  pause : ∀ d, P (.pause d)

/-- A call comes to what the last reply carries, and without such a reply to an error. -/
theorem call_latest (hP : Admits P n method params) (hg : g method = none) :
    (n.call method params).run.Follows (Latest.discipline (fun _ => True) P)
      (fun g' w => g.Agrees method g' ∧ (g' method).bind (·.result? n.url) = w.toOption) g := by
  refine RetryPolicy.attemptsFrom_follows (D := Latest.discipline (fun _ => True) P)
    (I := fun g' => g.Agrees method g' ∧ (g' method).bind (·.result? n.url) = none)
    (fun _ g₁ h₁ => ?_) (fun d _ _ => ⟨hP.pause d, rfl⟩) (fun _ _ h _ => h) _ _ _
    ⟨fun _ _ => rfl, by rw [hg]; rfl⟩
  refine attempt_follows (fun s => ⟨hP.dial s, rfl⟩) (fun _ _ => h₁) fun q r hq hp _ =>
    ⟨g₁.see (.exchange q r), ⟨hP.exchange q r hq hp, rfl⟩, ?_⟩
  have ha := h₁.1.trans (Latest.agrees_see (r := r) (δ := δ) hq)
  have hs : ((g₁.see (.exchange q r : Move Shared δ)) method).bind (·.result? n.url)
      = (r.result n.url).toOption := by
    rw [Latest.see_self hq]
    rfl
  cases hw : r.result n.url with
  | ok v => exact ⟨ha, hs.trans (congrArg _ hw)⟩
  | error e =>
    rw [hw] at hs
    simp only [RetryPolicy.Leaves]
    split <;> exact ⟨ha, hs⟩

/-- The same for a call whose result is read by a shape. -/
theorem read_call_latest (hP : Admits P n method params) (sh : Shape α)
    (hg : g method = none) :
    (do Node.read sh (← n.call method params)).run.Follows (Latest.discipline (fun _ => True) P)
      (fun g' (w : Except Error α) =>
        g.Agrees method g' ∧ (g' method).bind (·.view? sh n.url) = w.toOption) g := by
  have hview (g' : Latest) : (g' method).bind (·.view? sh n.url) =
      ((g' method).bind (·.result? n.url)).bind fun v => (sh v).toExcept.toOption :=
    (Option.bind_assoc ..).symm
  refine Act.follows_bind (call_latest hP hg) (fun g' v h => ?_) fun g' e h => ?_
  · exact ⟨h.1, by rw [hview, h.2]; rfl⟩
  · exact ⟨h.1, by rw [hview, h.2]; rfl⟩

end Node

end LedgerClient
