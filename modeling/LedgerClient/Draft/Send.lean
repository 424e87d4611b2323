import LedgerClient.Draft.Assemble
import LedgerClient.Node.Query

/-!
Sending a draft: one key for all, and for each attempt a nonce, a recent block, a signature and a
submission. Only a rejected nonce leads to another attempt, with a nonce above the rejected one.
-/

namespace LedgerClient.Draft

variable {δ : Type} [Span δ]

/-- Attempts that are left behind the first one. -/
def spareAttempts : Nat := 2

/-- The nonce that the ledger knows for a key. -/
def ledgerNonce (n : Node δ) (h : Holder) (k : KeyPair) : Act Shared δ Int := do
  let view ← n.viewAccessKey h.signer.account k.publicKey.text (.finality .optimistic)
  return view.nonce

/-- The draft, signed for a nonce and the latest final block. -/
def signFor (d : Draft) (n : Node δ) (h : Holder) (k : KeyPair) (nonce : Int) :
    Act Shared δ SignedTransaction := do
  let block ← n.block (.finality .final)
  let hash ← Act.ofExcept block.header.digest
  Act.ofExcept ((d.transaction h k.publicKey (.whole nonce) hash).sign k.secret)

/-- The outcome, unless it says that the transaction failed. -/
def conclude (o : View.Outcome) : Except Error View.Outcome :=
  if o.isFailure then
    let message := (o.failureText?).getD ""
    .error (.failed (if message == "" then "unknown failure" else message) (some o))
  else .ok o

/-- What follows the rejection of a nonce: the next one where the rejection names the ledger's, and
else none, so that it is asked for. -/
def afterRejection (line : String) (ledgers : Value) : Act Shared δ (Option Int) :=
  if ledgers.isNull then do
    let _ ← Act.change fun s => (s.withNonces fun c => ((), c.forget line)).2
    return none
  else match ledgers.whole? with
    | some a => do return some (← NonceCache.renew line a)
    | none => throw .wrongKind

/-- A signature and a submission, and what follows where that fails. -/
def post (d : Draft) (n : Node δ) (h : Holder) (k : KeyPair) (nonce : Int)
    (otherwise : Error → Act Shared δ View.Outcome) : Act Shared δ View.Outcome := do
  let signed ← d.signFor n h k nonce
  (n.submit signed d.level).andThen fun
    | .ok o => Act.ofExcept (conclude o)
    | .error e => otherwise e

/-- One attempt, with a nonce that is at hand or claimed now. -/
def attempt (d : Draft) (n : Node δ) (h : Holder) (k : KeyPair) (pending : Option Int)
    (otherwise : Error → Act Shared δ View.Outcome) : Act Shared δ View.Outcome := do
  let nonce ← match pending with
    | some m => pure m
    | none => NonceCache.claim (h.line k) (ledgerNonce n h k)
  d.post n h k nonce otherwise

/-- Attempts, as long as one is left and the last one ended with the rejection of its nonce. -/
def attempts (d : Draft) (n : Node δ) (h : Holder) (k : KeyPair) :
    Nat → Option Int → Act Shared δ View.Outcome
  | 0, pending => d.attempt n h k pending fun e => throw e
  | left + 1, pending => d.attempt n h k pending fun e => match e.rejection? with
    | some ledgers => do d.attempts n h k left (← afterRejection (h.line k) ledgers)
    | none => throw e

def send (d : Draft) (n : Node δ) : Act Shared δ View.Outcome := do
  let h ← Act.ofExcept d.ready
  let k ← h.claim
  d.attempts n h k spareAttempts none

end LedgerClient.Draft
