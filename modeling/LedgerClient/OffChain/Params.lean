import LedgerClient.Digest
import LedgerClient.Value.Record
import LedgerClient.Wire.Encoding

/-!
What a wallet signs to prove that it controls an account. The nonce starts with the time at which
it was made, and the tag in front keeps the signed bytes apart from those of transactions.
-/

namespace LedgerClient.OffChain

def nonceLength : Nat := 32

structure Params where
  message : String
  recipient : String
  nonce : Bytes
  callbackUrl : Option String
  state : Option String
  length_eq : nonce.length = nonceLength
  deriving DecidableEq

/-- Milliseconds since the epoch, in the first eight bytes. -/
def timestamp (nonce : Bytes) : Nat := Bytes.toNatBE (nonce.take 8)

/-- The time, and random bytes behind it. -/
def makeNonce (now : Int) (random : Bytes) : Except Error Bytes :=
  if now < 0 then .error (.host (.outOfRange "can't convert negative int to unsigned"))
  else if Nat.pow 2 64 ≤ now then .error (.host (.outOfRange "int too big to convert"))
  else .ok (Bytes.ofNatBE 8 now.toNat ++ random.take (nonceLength - 8))

instance : ToValue Params := ⟨fun p =>
  ([("message", p.message), ("recipient", p.recipient), ("nonce", p.nonce),
    ("callback_url", p.callbackUrl), ("state", p.state)] : Members)⟩

namespace Params

def make (message recipient : String) (nonce : Bytes) (callbackUrl state : Option String) :
    Except Error Params :=
  if h : nonce.length = nonceLength then .ok ⟨message, recipient, nonce, callbackUrl, state, h⟩
  else .error (.badValue ("NEP-413 nonce must be 32 bytes, got " ++ Text.natText nonce.length))

def tag : Nat := Nat.pow 2 31 + 413

def encoding (p : Params) : Encoding :=
  Encoding.int .u32 tag ++ Encoding.text p.message ++ Encoding.ofBytes p.nonce
    ++ Encoding.text p.recipient ++ Encoding.option Encoding.text p.callbackUrl

def preimage (p : Params) : Except Error Bytes := p.encoding.toBytes

/-- What is signed. The state is not part of it. -/
def digest (p : Params) : Except Error Digest := p.preimage.map Digest.of

end Params

end LedgerClient.OffChain
