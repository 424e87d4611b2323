import LedgerClient.Draft.Send

/-!
Signing a draft as a delegation, for another account to submit. The nonce cache has no part in it.
-/

namespace LedgerClient

/-- The last block at which a delegation counts: a height, or so many blocks from now. -/
inductive Expiry where
  | height (h : Counter)
  | after (blocks : Int)

structure DelegateOptions where
  /-- None stands for the one after the ledger's. -/
  nonce : Option Counter
  expiry : Expiry

def DelegateOptions.standard : DelegateOptions := ⟨none, .after 200⟩

/-- A signed delegation with the text that a relayer is handed. -/
def SignedDelegate.withPayload (s : SignedDelegate) : Except Error (SignedDelegate × String) :=
  s.toBase64.map (s, ·)

namespace Draft

variable {δ : Type} [Span δ]

/-- The direct actions of a draft that can be delegated. -/
def delegable (d : Draft) : Except Error (List DirectAction) :=
  if d.actions.isEmpty then .error (.plain .build "Delegate action requires at least one action")
  else match Delegate.directOnly? d.actions with
    | some as => .ok as
    | none => .error
      (.plain .build "Delegate actions cannot contain nested signed delegate actions")

def delegateNonce (n : Node δ) (h : Holder) (k : KeyPair) (o : DelegateOptions) :
    Act Shared δ Counter :=
  match o.nonce with
  | some c => pure c
  | none => do return .whole ((← ledgerNonce n h k) + 1)

def lastBlock (n : Node δ) : Expiry → Act Shared δ Counter
  | .height h => pure h
  | .after blocks => do
    let status ← n.status
    return .whole (status.sync.latestBlockHeight + blocks)

/-- The draft as a signed delegation. -/
def signDelegate (d : Draft) (n : Node δ) (o : DelegateOptions) : Act Shared δ SignedDelegate := do
  let actions ← Act.ofExcept d.delegable
  let h ← Act.ofExcept d.requireSigner
  let k ← h.claim
  let nonce ← delegateNonce n h k o
  let height ← lastBlock n o.expiry
  Act.ofExcept (Delegate.sign ⟨h.signer.account, d.receiver, actions, nonce, height, k.publicKey⟩
    k.secret)

/-- The draft as a signed delegation, ready to be handed on. -/
def delegate (d : Draft) (n : Node δ) (o : DelegateOptions) :
    Act Shared δ (SignedDelegate × String) := do
  Act.ofExcept (← d.signDelegate n o).withPayload

end Draft

end LedgerClient
