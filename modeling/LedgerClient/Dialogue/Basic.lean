import LedgerClient.Node.Request

/-!
What one party does that talks to a node: indivisible steps on a state that it shares with
others, requests that wait for a reply, and pauses. Others may act between any two of these.
-/

namespace LedgerClient

inductive Dialogue (σ δ α : Type) where
  | done (a : α)
  /-- Changes the state and goes on with what it was before. -/
  | step (f : σ → σ) (next : σ → Dialogue σ δ α)
  | ask (q : Request) (next : Reply → Dialogue σ δ α)
  | pause (d : δ) (next : Dialogue σ δ α)

namespace Dialogue

variable {σ δ α β γ : Type}

protected def bind : Dialogue σ δ α → (α → Dialogue σ δ β) → Dialogue σ δ β
  | done a, f => f a
  | step g k, f => step g fun s => (k s).bind f
  | ask q k, f => ask q fun r => (k r).bind f
  | pause d k, f => pause d (k.bind f)

instance : Monad (Dialogue σ δ) where
  pure := done
  bind := Dialogue.bind

@[simp] theorem bind_done (a : α) (f : α → Dialogue σ δ β) : (done a).bind f = f a := rfl

theorem bind_assoc (x : Dialogue σ δ α) (f : α → Dialogue σ δ β) (g : β → Dialogue σ δ γ) :
    (x.bind f).bind g = x.bind fun a => (f a).bind g := by
  induction x with
  | done a => rfl
  | step h k ih => simp [Dialogue.bind, ih]
  | ask q k ih => simp [Dialogue.bind, ih]
  | pause d k ih => simp [Dialogue.bind, ih]

end Dialogue

/-- A dialogue that ends with a result or an error. -/
abbrev Act (σ δ α : Type) := ExceptT Error (Dialogue σ δ) α

namespace Act

variable {σ δ α β : Type}

def ofExcept (r : Except Error α) : Act σ δ α := ExceptT.mk (.done r)

/-- Changes the state and returns what it was before. -/
def change (f : σ → σ) : Act σ δ σ := ExceptT.mk (.step f fun s => .done (.ok s))

/-- Changes the state by a rule that also gives a result. -/
def changeWith (f : σ → α × σ) : Act σ δ α :=
  ExceptT.mk (.step (fun s => (f s).2) fun s => .done (.ok (f s).1))

def ask (q : Request) : Act σ δ Reply := ExceptT.mk (.ask q fun r => .done (.ok r))

/-- Goes on with the outcome, whether a result or an error. -/
def andThen (x : Act σ δ α) (f : Except Error α → Act σ δ β) : Act σ δ β :=
  ExceptT.mk (x.run.bind fun r => (f r).run)

end Act

end LedgerClient
