import LedgerClient.Action.Record
import LedgerClient.Draft.Delegate
import LedgerClient.Json.Document

/-!
Steps of a draft as records, so that a draft can be written down. Signers are named there, and
looked up among those that are at hand.
-/

namespace LedgerClient

abbrev Holders := List (String × Holder)

/-- The signer that a record names, if it names one. -/
def Holders.named (hs : Holders) (ms : Members) : Option Holder :=
  ((ms.get "signer").text?).bind fun name => hs.lookup name

def Entry.ofRecord? (ms : Members) : Option Entry :=
  let key := ms.get "public_key"
  let amount := ms.get "amount"
  let deposit := if ms.has "deposit" then ms.get "deposit" else .int 0
  let mode : DeployMode :=
    if !ms.has "by_hash" || (ms.get "by_hash").isTruthy then .codeHash else .accountId
  match ms.word "do" with
  | "create_account" => some createAccount
  | "transfer" => some (transfer amount)
  | "deploy" => some (deploy (ms.hex "code"))
  | "call" => some (call (ms.word "method"))
  | "add_full_access_key" => some (addFullAccessKey key)
  | "add_function_call_key" =>
    some (addCallKey key (ms.get "receiver") (ms.texts "methods") (ms.get "allowance"))
  | "delete_key" => some (deleteKey key)
  | "delete_account" => some (deleteAccount (ms.get "beneficiary"))
  | "stake" => some (stake amount key)
  | "publish_contract" => some (publish (ms.hex "code") mode)
  | "deploy_from_hash" => some (use (.byHash (ms.get "hash")))
  | "deploy_from_publisher" => some (use (.byPublisher (ms.get "publisher")))
  | "state_init_by_hash" =>
    some (initState (.byHash (ms.get "hash")) (.ofValue (ms.get "data")) deposit)
  | "state_init_by_publisher" =>
    some (initState (.byPublisher (ms.get "publisher")) (.ofValue (ms.get "data")) deposit)
  | _ => none

/-- A step from a record; a draft has no other steps. -/
def DraftStep.ofRecord (hs : Holders) (ms : Members) : Except Error DraftStep := do
  match ms.word "do" with
  | "args" => return edit (.arguments (← Json.parse (ms.word "json")))
  | "args_raw" => return edit (.rawArguments (ms.hex "data"))
  | "gas" => return edit (.gas (ms.get "gas"))
  | "deposit" => return edit (.deposit (ms.get "amount"))
  | "signed_delegate_action" =>
    return append (.relay (← SignedDelegate.ofBase64 (ms.word "payload")))
  | "wait_until" => return waitUntil (← WaitLevel.ofValue (ms.get "status"))
  | "sign_with" => return signWith (hs.named ms)
  | _ => match Entry.ofRecord? ms with
    | some e => return append e
    | none => throw (.host .noMember)

/-- Options from a record; a height goes before a number of blocks. -/
def DelegateOptions.ofRecord (ms : Members) : DelegateOptions :=
  let counter (name : String) : Option Counter :=
    if (ms.get name).isNull then none else some (Counter.ofValue (ms.get name))
  let blocks (name : String) : Option Expiry := ((ms.get name).whole?).map .after
  let height := ((counter "max_block_height").or (counter "with_max_height")).map Expiry.height
  ⟨counter "nonce",
    ((height.or (blocks "with_offset")).or (blocks "block_height_offset")).getD standard.expiry⟩

end LedgerClient
