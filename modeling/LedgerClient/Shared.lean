import LedgerClient.Dialogue.Basic
import LedgerClient.Nonce.Cache
import LedgerClient.Value.Record

/-!
What the handles of one client share: sessions with the transport, the lines that count requests,
the nonces, and whose turn it is among the keys of each signer. Claiming a nonce is one step on
these, and a second one behind the ledger's answer where the line was not known; whoever claims
meanwhile finds the cache as the finished steps left it. Behind the rejection of a nonce another one
is had in a single step.
-/

namespace LedgerClient

/-- A session of the transport; the limit is null for one that was lent to the client. -/
structure Session where
  closed : Bool
  timeout : Value
  deriving Inhabited

instance : ToValue Session := ⟨fun s => ([("closed", s.closed), ("timeout", s.timeout)] : Members)⟩

/-- A line to a node: its session, whether that may be closed, and the last request's number. -/
structure Line where
  session : Option Nat
  owned : Bool
  lastId : Nat
  deriving Inhabited

structure Shared where
  sessions : List Session
  lines : List Line
  nonces : NonceCache
  turns : List Nat

namespace Shared

def empty : Shared := ⟨[], [], .empty, []⟩

def line (s : Shared) (i : Nat) : Line := s.lines.getD i default

/-- A new line without a session, and its number. -/
def addLine (s : Shared) : Nat × Shared :=
  (s.lines.length, { s with lines := s.lines ++ [⟨none, true, 0⟩] })

/-- A new line over a session that belongs to someone else. -/
def addLentLine (s : Shared) : Nat × Shared :=
  (s.lines.length,
    { s with
      sessions := s.sessions ++ [⟨false, .null⟩]
      lines := s.lines ++ [⟨some s.sessions.length, false, 0⟩] })

def isOpen (s : Shared) (l : Line) : Bool :=
  match l.session with
  | some n => !(s.sessions.getD n default).closed
  | none => false

/-- Makes sure that a line has an open session, and counts one more request on it. -/
def dial (s : Shared) (i : Nat) (timeout : Value) : Shared :=
  let l := s.line i
  if s.isOpen l then { s with lines := s.lines.set i { l with lastId := l.lastId + 1 } }
  else
    { s with
      sessions := s.sessions ++ [⟨false, timeout⟩]
      lines := s.lines.set i ⟨some s.sessions.length, true, l.lastId + 1⟩ }

/-- Closes the session of a line unless it belongs to someone else. -/
def hangUp (s : Shared) (i : Nat) : Shared :=
  let l := s.line i
  match l.session with
  | none => s
  | some n =>
    if !l.owned then s
    else
      { s with
        sessions := s.sessions.set n { s.sessions.getD n default with closed := true }
        lines := s.lines.set i { l with session := none } }

def turn (s : Shared) (i : Nat) : Nat := s.turns.getD i 0

/-- Counts one more claim of a key. -/
def nextTurn (s : Shared) (i : Nat) : Shared := { s with turns := s.turns.set i (s.turn i + 1) }

/-- A place for a signer's turns, and its number. -/
def addSigner (s : Shared) : Nat × Shared :=
  (s.turns.length, { s with turns := s.turns ++ [0] })

/-- Runs a step of the nonce cache. -/
def withNonces {α : Type} (f : NonceCache → α × NonceCache) (s : Shared) : α × Shared :=
  let (a, c) := f s.nonces
  (a, { s with nonces := c })

end Shared

/-! ### Claims of nonces -/

namespace NonceCache

variable {δ : Type}

/-- A nonce from the cache, else the one after what `fetch` comes to. -/
def claim (l : String) (fetch : Act Shared δ Int) : Act Shared δ Int := do
  match ← Act.changeWith (Shared.withNonces (·.take l)) with
  | some n => return n
  | none =>
    let n ← fetch
    Act.changeWith (Shared.withNonces (·.settle l n))

/-- A nonce above the one that a rejection named. -/
def renew (l : String) (ledgers : Int) : Act Shared δ Int := do
  match ← Act.changeWith (Shared.withNonces (·.reconcile l ledgers)) with
  | some n => return n
  | none => throw .unwritten

end NonceCache

end LedgerClient
