import LedgerClient.Draft.Basic
import LedgerClient.Transaction.Basic

/-!
From a draft to a transaction: what is missing is found first, and then nothing but the key, the
nonce and the block is left to be said.
-/

namespace LedgerClient.Draft

/-- Refuses a draft without actions. -/
def requireActions (d : Draft) : Except Error Unit :=
  if d.actions.isEmpty then
    .error (.plain .build "Transaction must have at least one action")
  else .ok ()

def requireSigner (d : Draft) : Except Error Holder :=
  match d.signer? with
  | some h => .ok h
  | none => .error .noSigner

/-- The signer of a draft that can be sent. -/
def ready (d : Draft) : Except Error Holder := do
  d.requireActions
  d.requireSigner

def transaction (d : Draft) (h : Holder) (key : PublicKey) (nonce : Counter) (block : Digest) :
    Transaction :=
  ⟨h.signer.account, key, nonce, d.receiver, block, d.actions⟩

/-- A transaction for a key and a block as they were given. -/
def build (d : Draft) (key : Value) (nonce : Counter) (block : Value) :
    Except Error Transaction := do
  let h ← d.ready
  let k ← PublicKey.ofValue key
  return d.transaction h k nonce (← Digest.ofValue block)

end LedgerClient.Draft
