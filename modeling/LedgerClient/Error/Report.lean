import LedgerClient.Account
import LedgerClient.Error.Cause

/-!
Errors as a node reports them. The name of the cause selects the failure; where it selects none,
an old wording of the data is recognised before the report is passed on as it came.
-/

namespace LedgerClient

structure Report where
  code : Value
  message : Value
  data : Value
  cause : Value

namespace Report

def ofMembers (ms : Members) : Report :=
  ⟨ms.get "code", (ms.get "message").orElse (.text "Unknown error"), ms.get "data", ms.get "cause"⟩

def account? : Value → Option AccountId
  | .text s => (AccountId.ofText s).toOption
  | _ => none

/-- The first of several members that is there and not null. -/
def firstOf (info : Members) (names : List String) : Value :=
  ((names.map info.get).find? fun v => !v.isNull).getD .null

/-- The text of a member, or of a substitute where the member is null or empty. -/
def textOr (info : Members) (name : String) (substitute : Value) : String :=
  ((info.get name).orElse substitute).display

/-- What the data says of an invalid transaction, on its own or under an execution error. -/
def invalidPart (data : Members) : Value :=
  match data.get "TxExecutionError" with
  | .object ms =>
    let inner := Members.get ms "InvalidTxError"
    if inner.isNull then data.get "InvalidTxError" else inner
  | _ => data.get "InvalidTxError"

def nonceOf (part : Members) : Option Failure :=
  let tx := part.get "tx_nonce"
  let ak := part.get "ak_nonce"
  if tx.whole?.isSome && ak.whole?.isSome then some (.invalidNonce tx ak) else none

/-- The rejection of a nonce that transaction error data holds. -/
def invalidNonce? (data : Value) : Option Failure :=
  match data with
  | .object ms => match invalidPart ms with
    | .object part => match Members.get part "InvalidNonce" with
      | .object nonce => nonceOf nonce
      | _ => none
    | _ => none
  | _ => none

def rejection (message data : Value) : Failure :=
  match invalidNonce? data with
  | some f => f
  | none => match data with
    | .object ms => .invalidTransaction message ms (Members.get ms "ShardCongested").isTrue
        (Members.get ms "ShardStuck").isTrue
    | _ => .invalidTransaction message [] false false

/-- The failure of a call. A method is named by text or not at all. -/
def callFailure (contract : String) (method message : Value) : Except Error Failure :=
  match method with
  | .text _ => .ok (.contractFailed contract method message)
  | _ =>
    if method.isTruthy then .error Error.wrongKind
    else .ok (.contractFailed contract method message)

/-- The failure that a cause stands for, as far as its particulars suffice. -/
def ofCause (c : Cause) (info : Members) (message data : Value) : Except Error (Option Failure) :=
  match c with
  | .unknownAccount =>
    .ok ((account? (info.get "requested_account_id")).map fun a => .accountNotFound a.text)
  | .invalidAccount =>
    .ok (some (.invalidAccount (textOr info "requested_account_id" (.text "unknown"))))
  | .unknownAccessKey =>
    .ok (match account? (info.get "requested_account_id"), info.get "public_key" with
      | some a, .text k => some (.accessKeyNotFound a.text k)
      | _, _ => none)
  | .unknownBlock => .ok (some (.unknownBlock (if data.text?.isSome then data else message)))
  | .unknownChunk => .ok (some (.unknownChunk (textOr info "chunk_hash" message)))
  | .unknownEpoch => .ok (some (.unknownEpoch (if data.text?.isSome then data else message)))
  | .unknownReceipt =>
    .ok (some (.unknownReceipt (textOr info "receipt_id" (.text "unknown"))))
  | .noContractCode =>
    .ok ((account? (firstOf info ["contract_account_id", "account_id", "contract_id"])).map
      fun a => .contractMissing a.text)
  | .tooLargeContractState =>
    .ok ((account? (firstOf info ["account_id", "contract_id"])).map
      fun a => .contractTooLarge a.text)
  | .contractExecution => match account? (info.get "contract_id") with
    | some a => (callFailure a.text (info.get "method_name") message).map some
    | none => .ok none
  | .unavailableShard => .ok (some (.shardUnavailable message))
  | .noSyncedBlocks => .ok (some (.notSynced message))
  | .notSyncedYet => .ok (some (.notSynced message))
  | .invalidShardId =>
    let v := info.get "shard_id"
    .ok (some (.invalidShard (.text (if v.isNull then "unknown" else v.display))))
  | .invalidTransaction => .ok (some (rejection message data))
  | .timeout => .ok (some (.requestTimeout message (info.get "transaction_hash").text?))
  | .parse => .ok (some (.parse message))
  | .internal => .ok (some (.internal message))

/-- The cause that a report names, with its particulars. -/
def namedCause? (cause : Value) : Option (Cause × Members) :=
  match cause with
  | .object ms => match Members.get ms "name" with
    | .text name =>
      (Cause.ofName? name).map fun c => (c, ((Members.get ms "info").members?).getD [])
    | _ => none
  | _ => none

def phrase : List Char := "does not exist".toList

def isInside (part : List Char) : List Char → Bool
  | [] => part.isEmpty
  | c :: r => part.isPrefixOf (c :: r) || isInside part r

/-- The account of an old wording such as `account a.near does not exist while viewing`. -/
def missingAccount? (data : Value) : Option AccountId :=
  match data with
  | .text s =>
    if isInside phrase s.toList && "account ".toList.isPrefixOf s.toList then
      match Text.fields (String.ofList (s.toList.drop 8)) with
      | w :: _ => account? (.text w)
      | [] => none
    else none
  | _ => none

def classifyCause (r : Report) : Except Error (Option Failure) :=
  match namedCause? r.cause with
  | some (c, info) => ofCause c info r.message r.data
  | none => .ok none

/-- The failure that a report stands for. -/
def classify (r : Report) : Except Error Failure := do
  match ← r.classifyCause with
  | some f => return f
  | none => match missingAccount? r.data with
    | some a => return .accountNotFound a.text
    | none => return .unclassified r.message .rpc []

def toError (r : Report) : Error :=
  match r.classify with
  | .ok f => .rpc f r.code r.data none
  | .error e => e

/-- The error for the error member of an answer. -/
def errorOf : Value → Error
  | .object ms => (ofMembers ms).toError
  | _ => .host .noMember

/-- The failure of a view call that answered with an error text. -/
def viewFailure (contract method message : String) : Failure :=
  let mentions (s : String) := isInside s.toList message.toList
  if mentions "CodeDoesNotExist" then .contractMissing contract
  else if mentions "MethodNotFound" || mentions "MethodResolveError" then
    .contractFailed contract (.text method) (.text ("Method not found: " ++ method))
  else .contractFailed contract (.text method) (.text message)

end Report

end LedgerClient
