import LedgerClient.Dialogue.Basic

/-!
Running a dialogue: to its end with the replies laid out beforehand, or up to its next request.
-/

namespace LedgerClient

inductive Event (δ : Type) where
  | request (q : Request)
  | pause (d : δ)

/-- A dialogue that has ended, or one that waits for a reply. -/
inductive Standing (σ δ α : Type) where
  | finished (a : α)
  | waiting (q : Request) (next : Reply → Dialogue σ δ α)

structure Transcript (σ δ α : Type) where
  result : α
  state : σ
  events : List (Event δ)
  unused : List Reply

namespace Dialogue

variable {σ δ α : Type}

/-- Takes one reply per request, and `otherwise` when none is left. -/
def play (otherwise : Reply) : Dialogue σ δ α → σ → List Reply → Transcript σ δ α
  | done a, s, rs => ⟨a, s, [], rs⟩
  | step f k, s, rs => (k s).play otherwise (f s) rs
  | ask q k, s, [] =>
    let t := (k otherwise).play otherwise s []
    { t with events := .request q :: t.events }
  | ask q k, s, r :: rs =>
    let t := (k r).play otherwise s rs
    { t with events := .request q :: t.events }
  | pause d k, s, rs =>
    let t := k.play otherwise s rs
    { t with events := .pause d :: t.events }

/-- Runs up to the next request or the end. -/
def advance : Dialogue σ δ α → σ → Standing σ δ α × σ × List (Event δ)
  | done a, s => (.finished a, s, [])
  | step f k, s => (k s).advance (f s)
  | ask q k, s => (.waiting q k, s, [.request q])
  | pause d k, s =>
    let (st, s', es) := k.advance s
    (st, s', .pause d :: es)

end Dialogue

end LedgerClient
