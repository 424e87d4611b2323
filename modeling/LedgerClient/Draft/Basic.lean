import LedgerClient.Action.Basic
import LedgerClient.Json.Printer
import LedgerClient.Signer.Holder
import LedgerClient.WaitLevel

/-!
Drafts of transactions: actions for one receiver, in order, that are yet to be signed. Actions are
appended, and each call can be edited later by its place. What fails leaves the draft as it was.
-/

namespace LedgerClient

structure Draft where
  receiver : AccountId
  /-- The client's signer, and one chosen for this draft alone. -/
  standing : Option Holder
  chosen : Option Holder
  level : WaitLevel
  actions : List Action

/-- A published contract as it is referred to before the reference is read. -/
inductive Published where
  | byHash (hash : Value)
  | byPublisher (account : Value)

def Published.id : Published → Except Error ContractId
  | byHash hash => (Digest.ofValue hash).map .codeHash
  | byPublisher account => (AccountId.ofValue account).map .publisher

/-- What is to be appended, with its values as they were given. -/
inductive Entry where
  | createAccount
  | transfer (amount : Value)
  | deploy (code : Bytes)
  | call (method : String)
  | addFullAccessKey (key : Value)
  /-- A null allowance is an unlimited one. -/
  | addCallKey (key receiver : Value) (methods : List String) (allowance : Value)
  | deleteKey (key : Value)
  | deleteAccount (beneficiary : Value)
  | stake (amount key : Value)
  | relay (s : SignedDelegate)
  | publish (code : Bytes) (mode : DeployMode)
  | use (contract : Published)
  | initState (contract : Published) (data : ByteMap) (deposit : Value)

namespace Entry

def callKeyAccess (receiver : Value) (methods : List String) (allowance : Value) :
    Except Error AccessKey := do
  let limit ← if allowance.isNull then pure none else (Token.ofValue allowance).map some
  return .functionCall (← AccountId.ofValue receiver) methods limit

def action : Entry → Except Error Action
  | createAccount => return .direct .createAccount
  | transfer amount => do return .direct (.transfer (← Token.ofValue amount))
  | deploy code => return .direct (.deployContract code)
  | call method => return .direct (.functionCall method [] Gas.standard Amount.zero)
  | addFullAccessKey key => do
    return .direct (.addKey (← PublicKey.ofValue key) AccessKey.fullAccess)
  | addCallKey key receiver methods allowance => do
    let access ← callKeyAccess receiver methods allowance
    return .direct (.addKey (← PublicKey.ofValue key) access)
  | deleteKey key => do return .direct (.deleteKey (← PublicKey.ofValue key))
  | deleteAccount beneficiary => do
    return .direct (.deleteAccount (← AccountId.ofValue beneficiary))
  | stake amount key => do
    let a ← Token.ofValue amount
    return .direct (.stake a (← PublicKey.ofValue key))
  | relay s => return .delegated s
  | publish code mode => return .direct (.deployGlobalContract code mode)
  | use contract => do return .direct (.useGlobalContract (← contract.id))
  | initState contract data deposit => do
    let id ← contract.id
    return .direct (.stateInit ⟨id, data⟩ (← Token.ofValue deposit))

end Entry

/-- A change of one part of a call. -/
inductive CallEdit where
  | arguments (v : Value)
  | rawArguments (bs : Bytes)
  | gas (v : Value)
  | deposit (v : Value)

namespace CallEdit

/-- Arguments as compact JSON. -/
def encodeArguments (v : Value) : Except Error Bytes := do
  return Utf8.encode (← Json.write Json.compact v)

/-- The edited action. Only calls have parts to edit. -/
def apply (e : CallEdit) : Action → Except Error Action
  | .direct (.functionCall method args g d) => match e with
    | arguments v => do return .direct (.functionCall method (← encodeArguments v) g d)
    | rawArguments bs => return .direct (.functionCall method bs g d)
    | gas v => do return .direct (.functionCall method args (← Gas.ofValue v) d)
    | deposit v => do return .direct (.functionCall method args g (← Token.ofValue v))
  | a => .ok a

end CallEdit

namespace Draft

def start (receiver : AccountId) (signer : Option Holder) (level : WaitLevel) : Draft :=
  ⟨receiver, signer, none, level, []⟩

def signer? (d : Draft) : Option Holder := d.chosen.or d.standing

def append (d : Draft) (e : Entry) : Except Error Draft := do
  return { d with actions := d.actions ++ [← e.action] }

/-- Edits the call at a place. -/
def edit (d : Draft) (place : Nat) (e : CallEdit) : Except Error Draft :=
  match d.actions[place]? with
  | some a => do return { d with actions := d.actions.set place (← e.apply a) }
  | none => .error (.host .noMember)

def display (d : Draft) : String :=
  "TransactionBuilder(receiver=" ++ d.receiver.display ++ ", actions="
    ++ Text.natText d.actions.length ++ ")"

def callDisplay (d : Draft) (place : Nat) : String :=
  match d.actions[place]? with
  | some (.direct (.functionCall method _ _ _)) => "CallBuilder(" ++ Text.quoted method ++ ")"
  | _ => d.display

end Draft

/-- What is in hand while a draft is written: all of it, or one of its calls. -/
inductive Hold where
  | draft
  | call (place : Nat)
  deriving DecidableEq, Repr

inductive DraftStep where
  | append (e : Entry)
  | edit (e : CallEdit)
  /-- No signer stands for the client's. -/
  | signWith (h : Option Holder)
  | waitUntil (level : WaitLevel)

namespace Draft

/-- One step on what is in hand. A new call is in hand behind it, and parts can be edited only of
a call; all other steps are those of the draft. -/
def step (d : Draft) (h : Hold) : DraftStep → Except Error (Hold × Draft)
  | .append (.call method) => do return (.call d.actions.length, ← d.append (.call method))
  | .append e => do return (.draft, ← d.append e)
  | .edit e => match h with
    | .call place => do return (h, ← d.edit place e)
    | .draft => .error (.host .noMember)
  | .signWith s => .ok (.draft, { d with chosen := s })
  | .waitUntil level => .ok (.draft, { d with level := level })

def shown (d : Draft) : Hold → String
  | .draft => d.display
  | .call place => d.callDisplay place

end Draft

end LedgerClient
