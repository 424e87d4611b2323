import LedgerClient.Node.Query
import LedgerClient.OffChain.Freshness

/-!
Checking a signed message in full: the signature first, and then whether the key controls the
account on the ledger.
-/

namespace LedgerClient.OffChain

structure VerifyOptions where
  maxAge : Option AgeLimit
  requireFullAccess : Bool

def VerifyOptions.standard : VerifyOptions := ⟨some AgeLimit.standard, true⟩

/-- Errors that say that the account or its key does not exist. -/
def saysAbsent : Error → Bool
  | .rpc (.accessKeyNotFound _ _) _ _ _ | .rpc (.accountNotFound _) _ _ _ => true
  | _ => false

/-- Whether the key is a full access key of the account. -/
def controls {δ : Type} [Span δ] (n : Node δ) (m : SignedMessage) : Act Shared δ Bool :=
  (n.viewAccessKey m.account m.publicKey.text (.finality .optimistic)).andThen fun
    | .ok k => pure k.isFullAccess
    | .error e => if saysAbsent e then pure false else throw e

def verify {δ : Type} [Span δ] (n : Node δ) (m : SignedMessage) (p : Params) (now : Int)
    (o : VerifyOptions) : Act Shared δ Bool := do
  if ← Act.ofExcept (verifySignature m p now o.maxAge) then
    if o.requireFullAccess then controls n m else return true
  else return false

end LedgerClient.OffChain
