import LedgerClient.Action.AccessKey
import LedgerClient.Bytes.Order
import LedgerClient.Hash.Keccak

/-!
References to published contracts, and the initial state of an account whose name follows from it.
-/

namespace LedgerClient

/-- How a published contract is referred to: by its code, which never changes, or by publisher. -/
inductive DeployMode where
  | codeHash
  | accountId
  deriving DecidableEq, Repr

namespace DeployMode

def tag : DeployMode → Nat
  | codeHash => 0
  | accountId => 1

def ofTag? : Nat → Option DeployMode
  | 0 => some codeHash
  | 1 => some accountId
  | _ => none

def name : DeployMode → String
  | codeHash => "CODE_HASH"
  | accountId => "ACCOUNT_ID"

def ofValue (v : Value) : Except Error DeployMode :=
  match v.number? with
  | some 0 => .ok codeHash
  | some 1 => .ok accountId
  | _ => .error (.badValue (v.literal ++ " is not a valid GlobalContractDeployMode"))

def read : Reader DeployMode := do
  let n ← Reader.tag
  match ofTag? n with
  | some m => return m
  | none => Reader.refuse ("Unknown global contract deploy mode: " ++ Text.natText n)

end DeployMode

inductive ContractId where
  | codeHash (d : Digest)
  | publisher (a : AccountId)
  deriving DecidableEq

namespace ContractId

/-- From two parts of which exactly one is there. -/
def ofParts (hash account : Value) : Except Error ContractId :=
  match hash.isNull, account.isNull with
  | false, true => (Digest.ofValue hash).map .codeHash
  | true, false => (AccountId.ofValue account).map .publisher
  | _, _ => .error
    (.badValue "GlobalContractIdentifier needs exactly one of code_hash or account_id")

def encoding : ContractId → Encoding
  | codeHash d => Encoding.tag 0 ++ d.encoding
  | publisher a => Encoding.tag 1 ++ a.encoding

def read : Reader ContractId := do
  match ← Reader.tag with
  | 0 => return codeHash (← Digest.read)
  | 1 => return publisher (← AccountId.read)
  | n => Reader.refuse ("Unknown global contract identifier tag: " ++ Text.natText n)

end ContractId

structure StateInit where
  code : ContractId
  data : ByteMap
  deriving DecidableEq

namespace StateInit

def pairEncoding (p : Bytes × Bytes) : Encoding := Encoding.counted p.1 ++ Encoding.counted p.2

def encoding (s : StateInit) : Encoding :=
  Encoding.tag 0 ++ s.code.encoding ++ Encoding.sequence pairEncoding s.data.entries

def readPair : Reader (Bytes × Bytes) := do
  let k ← Reader.counted
  return (k, ← Reader.counted)

def read : Reader StateInit := do
  match ← Reader.tag with
  | 0 =>
    let code ← ContractId.read
    return ⟨code, ByteMap.ofPairs (← Reader.sequence readPair)⟩
  | n => Reader.refuse ("Unknown state init version: " ++ Text.natText n)

def toBytes (s : StateInit) : Except Error Bytes := s.encoding.toBytes

/-- `0s` and the last twenty bytes of the digest of the binary form. -/
def account (s : StateInit) : Except Error AccountId := do
  AccountId.parse ("0s" ++ Hex.encode ((Keccak.digest (← s.toBytes)).drop 12))

end StateInit

end LedgerClient
