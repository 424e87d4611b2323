import LedgerClient.Action.Contract
import LedgerClient.Wire.Reader

/-!
Actions of a transaction. All are direct but one: a delegated action carries direct actions that
another account has signed. So delegation never nests.
-/

namespace LedgerClient

inductive DirectAction where
  | createAccount
  | deployContract (code : Bytes)
  | functionCall (method : String) (args : Bytes) (gas : Gas) (deposit : Token)
  | transfer (deposit : Token)
  | stake (amount : Token) (key : PublicKey)
  | addKey (key : PublicKey) (access : AccessKey)
  | deleteKey (key : PublicKey)
  | deleteAccount (beneficiary : AccountId)
  | deployGlobalContract (code : Bytes) (mode : DeployMode)
  | useGlobalContract (id : ContractId)
  | stateInit (init : StateInit) (deposit : Token)
  deriving DecidableEq

/-- Actions that a sender has signed for another account to submit. -/
structure Delegate where
  sender : AccountId
  receiver : AccountId
  actions : List DirectAction
  nonce : Counter
  maxBlockHeight : Counter
  publicKey : PublicKey
  deriving DecidableEq

structure SignedDelegate where
  delegate : Delegate
  signature : Signature
  deriving DecidableEq

inductive Action where
  | direct (a : DirectAction)
  | delegated (s : SignedDelegate)
  deriving DecidableEq

namespace DirectAction

def encoding : DirectAction → Encoding
  | createAccount => Encoding.tag 0
  | deployContract code => Encoding.tag 1 ++ Encoding.counted code
  | functionCall method args gas deposit =>
    Encoding.tag 2 ++ Encoding.text method ++ Encoding.counted args ++ gas.encoding
      ++ deposit.encoding
  | transfer deposit => Encoding.tag 3 ++ deposit.encoding
  | stake amount key => Encoding.tag 4 ++ amount.encoding ++ key.encoding
  | addKey key access => Encoding.tag 5 ++ key.encoding ++ access.encoding
  | deleteKey key => Encoding.tag 6 ++ key.encoding
  | deleteAccount beneficiary => Encoding.tag 7 ++ beneficiary.encoding
  | deployGlobalContract code mode =>
    Encoding.tag 9 ++ Encoding.counted code ++ Encoding.tag mode.tag
  | useGlobalContract id => Encoding.tag 10 ++ id.encoding
  | stateInit init deposit => Encoding.tag 11 ++ init.encoding ++ deposit.encoding

/-- Reads what stands behind the tag of an action. -/
def readFields : Nat → Reader DirectAction
  | 0 => return createAccount
  | 1 => do return deployContract (← Reader.counted)
  | 2 => do
    let method ← Reader.text
    let args ← Reader.counted
    let gas ← Amount.read
    return functionCall method args gas (← Amount.read)
  | 3 => do return transfer (← Amount.read)
  | 4 => do
    let amount ← Amount.read
    return stake amount (← PublicKey.read)
  | 5 => do
    let key ← PublicKey.read
    return addKey key (← AccessKey.read)
  | 6 => do return deleteKey (← PublicKey.read)
  | 7 => do return deleteAccount (← AccountId.read)
  | 9 => do
    let code ← Reader.counted
    return deployGlobalContract code (← DeployMode.read)
  | 10 => do return useGlobalContract (← ContractId.read)
  | 11 => do
    let init ← StateInit.read
    return stateInit init (← Amount.read)
  | n => Reader.refuse ("Unknown action discriminant: " ++ Text.natText n)

/-- A short form of actions that carry code. -/
def summary? : DirectAction → Option String
  | deployContract code =>
    some ("DeployContract(code=<" ++ Text.natText code.length ++ " bytes>)")
  | deployGlobalContract code mode =>
    some ("DeployGlobalContract(code=<" ++ Text.natText code.length ++ " bytes>, deploy_mode="
      ++ mode.name ++ ")")
  | _ => none

end DirectAction

namespace Delegate

def encoding (d : Delegate) : Encoding :=
  d.sender.encoding ++ d.receiver.encoding ++ Encoding.sequence DirectAction.encoding d.actions
    ++ d.nonce.encoding ++ d.maxBlockHeight.encoding ++ d.publicKey.encoding

/-- The direct actions of a list that holds no other. -/
def directOnly? : List Action → Option (List DirectAction)
  | [] => some []
  | .direct a :: r => (directOnly? r).map (a :: ·)
  | .delegated _ :: _ => none

def make (sender receiver : AccountId) (actions : List Action) (nonce maxBlockHeight : Counter)
    (publicKey : PublicKey) : Except Error Delegate :=
  match directOnly? actions with
  | some as => .ok ⟨sender, receiver, as, nonce, maxBlockHeight, publicKey⟩
  | none => .error (.badValue "Delegate actions cannot contain nested delegate actions")

def readDirect (readAction : Reader Action) : Reader DirectAction := do
  match ← readAction with
  | .direct a => return a
  | .delegated _ => Reader.refuse "Delegate actions cannot be nested"

def readWith (readAction : Reader Action) : Reader Delegate := do
  let sender ← AccountId.read
  let receiver ← AccountId.read
  let actions ← Reader.sequence (readDirect readAction)
  let nonce ← Counter.read
  let maxBlockHeight ← Counter.read
  return ⟨sender, receiver, actions, nonce, maxBlockHeight, ← PublicKey.read⟩

def toBytes (d : Delegate) : Except Error Bytes := d.encoding.toBytes

/-- Stands in front of what is signed, and keeps it apart from every transaction. -/
def signingTag : Nat := Nat.pow 2 30 + 366

/-- What the digest that the sender signs is taken of. -/
def preimage (d : Delegate) : Except Error Bytes :=
  (Encoding.int .u32 signingTag ++ d.encoding).toBytes

def digest (d : Delegate) : Except Error Digest := d.preimage.map Digest.of

/-- Signs the tagged digest. -/
def sign (d : Delegate) (k : SecretKey) : Except Error SignedDelegate := do
  return ⟨d, k.sign (← d.digest).bytes⟩

end Delegate

namespace SignedDelegate

def encoding (s : SignedDelegate) : Encoding := s.delegate.encoding ++ s.signature.encoding

def readWith (readAction : Reader Action) : Reader SignedDelegate := do
  let delegate ← Delegate.readWith readAction
  return ⟨delegate, ← Signature.read⟩

def toBytes (s : SignedDelegate) : Except Error Bytes := s.encoding.toBytes

def toBase64 (s : SignedDelegate) : Except Error String := s.toBytes.map Base64.encode

def verify (s : SignedDelegate) : Except Error Bool := do
  s.delegate.publicKey.verify (← s.delegate.digest).bytes s.signature

end SignedDelegate

namespace Action

def encoding : Action → Encoding
  | direct a => a.encoding
  | delegated s => Encoding.tag 8 ++ s.encoding

def toBytes (a : Action) : Except Error Bytes := a.encoding.toBytes

def isDelegated : Action → Bool
  | direct _ => false
  | delegated _ => true

/-- How many actions within one another the stack of the host holds while they are read. Each one
takes seven calls, and the stack ends after a thousand. -/
def depthLimit : Nat := 140

/-- Reads an action with fewer than the given number of delegated actions within one another.
Whether an action may stand inside a delegated one is seen only after it has been read. -/
def readWithin : Nat → Reader Action
  | 0 => Reader.fail (.host (.tooDeep .calling))
  | n + 1 => do
    match ← Reader.tag with
    | 8 => return delegated (← SignedDelegate.readWith (readWithin n))
    | t => return direct (← DirectAction.readFields t)

def read : Reader Action := readWithin depthLimit

end Action

def Delegate.read : Reader Delegate := Delegate.readWith Action.read

def SignedDelegate.read : Reader SignedDelegate := SignedDelegate.readWith Action.read

def SignedDelegate.ofBytes (bs : Bytes) : Except Error SignedDelegate := Reader.whole read bs

def SignedDelegate.ofBase64 (s : String) : Except Error SignedDelegate :=
  (Base64.bytes s).bind ofBytes

end LedgerClient
