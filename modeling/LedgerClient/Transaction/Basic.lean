import LedgerClient.Action.Basic

/-!
Transactions and their signatures. The digest of the binary form is what the signer signs and the
name under which the node reports the transaction.
-/

namespace LedgerClient

structure Transaction where
  signer : AccountId
  publicKey : PublicKey
  nonce : Counter
  receiver : AccountId
  blockHash : Digest
  actions : List Action
  deriving DecidableEq

structure SignedTransaction where
  transaction : Transaction
  signature : Signature
  deriving DecidableEq

namespace Transaction

def encoding (t : Transaction) : Encoding :=
  t.signer.encoding ++ t.publicKey.encoding ++ t.nonce.encoding ++ t.receiver.encoding
    ++ t.blockHash.encoding ++ Encoding.sequence Action.encoding t.actions

def read : Reader Transaction := do
  let signer ← AccountId.read
  let publicKey ← PublicKey.read
  let nonce ← Counter.read
  let receiver ← AccountId.read
  let blockHash ← Digest.read
  return ⟨signer, publicKey, nonce, receiver, blockHash, ← Reader.sequence Action.read⟩

def toBytes (t : Transaction) : Except Error Bytes := t.encoding.toBytes

def ofBytes (bs : Bytes) : Except Error Transaction := Reader.whole read bs

def digest (t : Transaction) : Except Error Digest := t.toBytes.map Digest.of

def sign (t : Transaction) (k : SecretKey) : Except Error SignedTransaction := do
  return ⟨t, k.sign (← t.digest).bytes⟩

end Transaction

namespace SignedTransaction

def encoding (s : SignedTransaction) : Encoding := s.transaction.encoding ++ s.signature.encoding

def read : Reader SignedTransaction := do
  let transaction ← Transaction.read
  return ⟨transaction, ← Signature.read⟩

def toBytes (s : SignedTransaction) : Except Error Bytes := s.encoding.toBytes

def ofBytes (bs : Bytes) : Except Error SignedTransaction := Reader.whole read bs

def toBase64 (s : SignedTransaction) : Except Error String := s.toBytes.map Base64.encode

def ofBase64 (s : String) : Except Error SignedTransaction := (Base64.bytes s).bind ofBytes

def digest (s : SignedTransaction) : Except Error Digest := s.transaction.digest

def verify (s : SignedTransaction) : Except Error Bool := do
  s.transaction.publicKey.verify (← s.digest).bytes s.signature

end SignedTransaction

end LedgerClient
