import LedgerClient.Dialogue.Basic
import LedgerClient.OffChain.Signed
import LedgerClient.Shared

/-!
Signers in use. Several handles may claim keys of one signer, so its turns are counted in what they
share, under the signer's number.
-/

namespace LedgerClient

structure Holder where
  signer : Signer
  seat : Nat

namespace Holder

variable {δ : Type}

/-- The next turn, which then has passed. -/
def claimTurn (h : Holder) : Act Shared δ Nat := do
  let before ← Act.change (·.nextTurn h.seat)
  return before.turn h.seat

/-- The key of the next turn. -/
def claim (h : Holder) : Act Shared δ KeyPair := do return h.signer.key (← h.claimTurn)

/-- The line of nonces of one of the keys. -/
def line (h : Holder) (k : KeyPair) : String :=
  NonceCache.line h.signer.account.text k.publicKey.text

/-- Signs a message with the key of the next turn. A message without a binary form takes none. -/
def signMessage (h : Holder) (p : OffChain.Params) : Act Shared δ OffChain.SignedMessage := do
  let _ ← Act.ofExcept p.digest
  Act.ofExcept (h.signer.signMessage (← h.claimTurn) p)

end Holder

end LedgerClient
