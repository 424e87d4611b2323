import LedgerClient.Transaction.Basic
import LedgerClient.Value.Record

/-!
Actions as records with a member for the kind, and transactions as records. Identifiers, keys and
amounts stand there in any form that they are read from, and are written as text and as whole
numbers.
-/

namespace LedgerClient

instance : ToValue AccountId := ⟨fun a => a.text⟩

instance : ToValue PublicKey := ⟨fun k => k.text⟩

instance : ToValue Signature := ⟨fun s => s.text⟩

instance : ToValue Digest := ⟨fun d => d.text⟩

instance {m : Measure} : ToValue (Amount m) := ⟨fun a => a.value⟩

instance : ToValue Counter := ⟨fun
  | .whole n => n
  | .other s => s⟩

def AccessKey.ofParts (nonce : Counter) (receiver methods allowance : Value) :
    Except Error AccessKey := do
  let r ← AccountId.ofValue receiver
  let a ← if allowance.isNull then pure none else (Token.ofValue allowance).map some
  return ⟨nonce, .functionCall r (methods.items.filterMap (·.text?)) a⟩

def AccessKey.ofRecord (ms : Members) : Except Error AccessKey :=
  let nonce := Counter.ofValue (ms.get "nonce")
  match ms.get "permission" with
  | .object p => ofParts nonce (Members.get p "receiver_id") (Members.get p "method_names")
      (Members.get p "allowance")
  | _ => .ok ⟨nonce, .fullAccess⟩

instance : ToValue Permission := ⟨fun
  | .fullAccess => "FullAccess"
  | .functionCall receiver methods allowance =>
    ([("receiver_id", receiver), ("method_names", methods), ("allowance", allowance)]
      : Members)⟩

def ContractId.ofRecord (ms : Members) : Except Error ContractId :=
  ofParts (ms.get "code_hash") (ms.get "account_id")

instance : ToValue ContractId := ⟨fun
  | .codeHash d => ([("code_hash", d)] : Members)
  | .publisher a => ([("account_id", a)] : Members)⟩

/-- A map from a list of pairs of hexadecimal texts. -/
def ByteMap.ofValue (v : Value) : ByteMap :=
  .ofPairs (v.items.filterMap fun p => match p.items with
    | [.text a, .text b] => some ((Hex.decode? a).getD [], (Hex.decode? b).getD [])
    | _ => none)

instance : ToValue ByteMap := ⟨fun m => (m.entries.map fun p => [p.1, p.2])⟩

def StateInit.ofRecord (ms : Members) : Except Error StateInit := do
  return ⟨← ContractId.ofRecord (ms.record "code"), .ofValue (ms.get "data")⟩

def DirectAction.ofRecord (ms : Members) : Except Error DirectAction := do
  match ms.word "kind" with
  | "CreateAccount" => return createAccount
  | "DeployContract" => return deployContract (ms.hex "code")
  | "FunctionCall" =>
    let gas ← ms.given "gas" Gas.standard Gas.ofValue
    let deposit ← ms.given "deposit" Amount.zero Token.ofValue
    return functionCall (ms.word "method_name") (ms.hex "args") gas deposit
  | "Transfer" => return transfer (← Token.ofValue (ms.get "deposit"))
  | "Stake" =>
    let amount ← Token.ofValue (ms.get "stake")
    return stake amount (← PublicKey.ofValue (ms.get "public_key"))
  | "AddKey" =>
    let access ← AccessKey.ofRecord (ms.record "access_key")
    return addKey (← PublicKey.ofValue (ms.get "public_key")) access
  | "DeleteKey" => return deleteKey (← PublicKey.ofValue (ms.get "public_key"))
  | "DeleteAccount" => return deleteAccount (← AccountId.ofValue (ms.get "beneficiary_id"))
  | "DeployGlobalContract" =>
    let mode ← ms.given "deploy_mode" DeployMode.codeHash DeployMode.ofValue
    return deployGlobalContract (ms.hex "code") mode
  | "UseGlobalContract" => return useGlobalContract (← ContractId.ofRecord (ms.record "id"))
  | "DeterministicStateInit" =>
    let init ← StateInit.ofRecord ms
    return stateInit init (← ms.given "deposit" Amount.zero Token.ofValue)
  | _ => throw .wrongKind

def Delegate.ofParts (ms : Members) (actions : List Action) : Except Error Delegate := do
  let sender ← AccountId.ofValue (ms.get "sender_id")
  let receiver ← AccountId.ofValue (ms.get "receiver_id")
  let key ← PublicKey.ofValue (ms.get "public_key")
  make sender receiver actions (Counter.ofValue (ms.get "nonce"))
    (Counter.ofValue (ms.get "max_block_height")) key

mutual

def Action.ofRecord : Value → Except Error Action
  | .object ms =>
    if Members.word ms "kind" = "Delegate" then do
      return .delegated (← SignedDelegate.ofRecord (Members.get ms "signed"))
    else do return .direct (← DirectAction.ofRecord ms)
  | _ => .error .wrongKind
termination_by v => sizeOf v
decreasing_by exact Members.sizeOf_get_lt ms "signed"

/-- With a signature, or with the secret key to sign with. -/
def SignedDelegate.ofRecord : Value → Except Error SignedDelegate
  | .object ms => do
    let actions ← (Members.items ms "actions").attach.mapM fun a => Action.ofRecord a.1
    let d ← Delegate.ofParts ms actions
    if Members.has ms "secret_key" then d.sign (← SecretKey.ofValue (Members.get ms "secret_key"))
    else return ⟨d, ← Signature.ofValue (Members.get ms "signature")⟩
  | _ => .error .wrongKind
termination_by v => sizeOf v
decreasing_by
  exact Nat.lt_trans (Value.sizeOf_lt_of_mem_items a.2) (Members.sizeOf_get_lt ms "actions")

end

def Delegate.ofRecord (ms : Members) : Except Error Delegate := do
  ofParts ms (← (ms.items "actions").mapM Action.ofRecord)

/-- The kind of an action, and its parts. -/
def DirectAction.parts : DirectAction → Except Error (String × Members)
  | createAccount => .ok ("CreateAccount", [])
  | deployContract code => .ok ("DeployContract", [("code", code)])
  | functionCall method args gas deposit =>
    .ok ("FunctionCall",
      [("method_name", method), ("args", args), ("gas", gas), ("deposit", deposit)])
  | transfer deposit => .ok ("Transfer", [("deposit", deposit)])
  | stake amount key => .ok ("Stake", [("stake", amount), ("public_key", key)])
  | addKey key access =>
    .ok ("AddKey", [("public_key", key),
      ("access_key", .object [("nonce", access.nonce), ("permission", access.permission)])])
  | deleteKey key => .ok ("DeleteKey", [("public_key", key)])
  | deleteAccount beneficiary => .ok ("DeleteAccount", [("beneficiary_id", beneficiary)])
  | deployGlobalContract code mode =>
    .ok ("DeployGlobalContract", [("code", code), ("deploy_mode", mode.tag)])
  | useGlobalContract id => .ok ("UseGlobalContract", [("id", id)])
  | stateInit init deposit => do
    return ("DeterministicStateInit", [("code", init.code), ("data", init.data),
      ("deposit", deposit), ("derived", ← init.account)])

def DirectAction.toRecord (a : DirectAction) : Except Error Value := do
  let (kind, parts) ← a.parts
  let summary : Members := match a.summary? with
    | some s => [("repr", s)]
    | none => []
  return .object (Members.also [("kind", kind)] (parts.also summary))

def Delegate.toRecord (d : Delegate) : Except Error Members := do
  return [("sender_id", d.sender), ("receiver_id", d.receiver),
    ("actions", ← d.actions.mapM DirectAction.toRecord), ("nonce", d.nonce),
    ("max_block_height", d.maxBlockHeight), ("public_key", d.publicKey)]

def SignedDelegate.toRecord (s : SignedDelegate) : Except Error Value := do
  let parts ← s.delegate.toRecord
  return .object (parts.also [("signature", s.signature), ("verify", ← s.verify),
    ("hash", ← s.delegate.digest)])

def Action.toRecord : Action → Except Error Value
  | direct a => a.toRecord
  | delegated s => do return .object [("kind", "Delegate"), ("signed", ← s.toRecord)]

namespace Transaction

/-- The actions are read first. -/
def ofRecord (ms : Members) : Except Error Transaction := do
  let actions ← (ms.items "actions").mapM Action.ofRecord
  let signer ← AccountId.ofValue (ms.get "signer_id")
  let receiver ← AccountId.ofValue (ms.get "receiver_id")
  let key ← PublicKey.ofValue (ms.get "public_key")
  let hash ← Digest.ofValue (ms.get "block_hash")
  return ⟨signer, key, Counter.ofValue (ms.get "nonce"), receiver, hash, actions⟩

def toRecord (t : Transaction) : Except Error Value := do
  return .object [("signer_id", t.signer), ("public_key", t.publicKey), ("nonce", t.nonce),
    ("receiver_id", t.receiver), ("block_hash", t.blockHash),
    ("actions", ← t.actions.mapM Action.toRecord)]

end Transaction

end LedgerClient
