import LedgerClient.Wire.Scalar
import LedgerClient.Key.Basic

/-!
What a key may do on an account: everything, or calls of some methods of one contract.
-/

namespace LedgerClient

inductive Permission where
  /-- No methods stand for all of them, and no allowance for an unlimited one. -/
  | functionCall (receiver : AccountId) (methods : List String) (allowance : Option Token)
  | fullAccess
  deriving DecidableEq

structure AccessKey where
  nonce : Counter
  permission : Permission
  deriving DecidableEq

namespace Permission

def encoding : Permission → Encoding
  | functionCall receiver methods allowance =>
    Encoding.tag 0 ++ Encoding.option Amount.encoding allowance ++ receiver.encoding
      ++ Encoding.sequence Encoding.text methods
  | fullAccess => Encoding.tag 1

def read : Reader Permission := do
  match ← Reader.tag with
  | 0 =>
    let allowance ← Reader.option Amount.read
    let receiver ← AccountId.read
    let methods ← Reader.sequence Reader.text
    return functionCall receiver methods allowance
  | 1 => return fullAccess
  | n => Reader.refuse ("Unknown access key permission tag: " ++ Text.natText n)

end Permission

namespace AccessKey

def fullAccess : AccessKey := ⟨.whole 0, .fullAccess⟩

def functionCall (receiver : AccountId) (methods : List String) (allowance : Option Token) :
    AccessKey :=
  ⟨.whole 0, .functionCall receiver methods allowance⟩

def encoding (k : AccessKey) : Encoding := k.nonce.encoding ++ k.permission.encoding

def read : Reader AccessKey := do
  let nonce ← Counter.read
  return ⟨nonce, ← Permission.read⟩

end AccessKey

end LedgerClient
