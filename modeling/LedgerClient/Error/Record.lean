import LedgerClient.Error.Basic
import LedgerClient.Value.Record

/-!
Errors as records: the name under which each kind is reported, and the particulars it has.
-/

namespace LedgerClient

def Mismatch.name : Mismatch → String
  | missing => "missing"
  | notInt => "int_type"
  | badInt => "int_parsing"
  | fractionalInt => "int_from_float"
  | notFinite => "finite_number"
  | tooLarge => "int_parsing_size"
  | notText => "string_type"
  | notBool => "bool_type"
  | badBool => "bool_parsing"
  | notList => "list_type"
  | notObject => "dict_type"
  | notModel => "model_type"
  | notMember => "enum"
  | badValue => "value_error"
  | badJson => "json_invalid"

instance : ToValue Step := ⟨fun
  | .field name => name
  | .index i => i⟩

instance : ToValue Issue := ⟨fun i =>
  ([("loc", i.path), ("type", i.mismatch.name)] : Members)⟩

namespace Kind

def table : List (Kind × String) :=
  [(.account, "ParseAccountIdError"), (.amount, "ParseAmountError"), (.gas, "ParseGasError"),
   (.key, "ParseKeyError"), (.digest, "ParseHashError"), (.encoding, "EncodingError"),
   (.seedPhrase, "InvalidSeedPhraseError"), (.signing, "SigningFailedError"),
   (.derivation, "KeyDerivationError"), (.keyMissing, "KeyNotFoundError"),
   (.keyFormat, "InvalidKeyFormatError"), (.platform, "PlatformError"), (.config, "ConfigError"),
   (.noSigner, "NoSignerError"), (.build, "TransactionBuildError")]

def name : Kind → String
  | general .any _ => "NearError"
  | general .parse _ => "ParseError"
  | general .signer _ => "SignerError"
  | general .keyStore _ => "KeyStoreError"
  | k => (table.lookup k).getD ""

/-- The kind of a name. The code is that of an error without a kind of its own. -/
def ofName (s : String) (code : Code) : Kind :=
  match s with
  | "ParseError" => general .parse code
  | "SignerError" => general .signer code
  | "KeyStoreError" => general .keyStore code
  | _ => ((table.find? (·.2 == s)).map (·.1)).getD (general .any code)

/-- The groups that a kind belongs to, the narrowest one first. -/
def groups (k : Kind) : List String :=
  (if k.isParse then ["ParseError"] else []) ++ (if k.isSigner then ["SignerError"] else [])
    ++ (if k.isKeyStore then ["KeyStoreError"] else [])

theorem ofName_name (k : Kind) : ofName k.name k.code = k := by
  cases k with
  | general g c => cases g <;> rfl
  | _ => rfl

end Kind

namespace Failure

def name : Failure → String
  | unclassified .. => "RpcError"
  | network .. => "NetworkError"
  | http .. => "HttpError"
  | exhausted .. => "RpcTimeoutError"
  | invalidResponse .. => "InvalidResponseError"
  | accountNotFound .. => "AccountNotFoundError"
  | invalidAccount .. => "InvalidAccountError"
  | accessKeyNotFound .. => "AccessKeyNotFoundError"
  | unknownBlock .. => "UnknownBlockError"
  | unknownChunk .. => "UnknownChunkError"
  | unknownEpoch .. => "UnknownEpochError"
  | unknownReceipt .. => "UnknownReceiptError"
  | contractMissing .. => "ContractNotDeployedError"
  | contractTooLarge .. => "ContractStateTooLargeError"
  | contractFailed .. => "ContractExecutionError"
  | shardUnavailable .. => "ShardUnavailableError"
  | notSynced .. => "NodeNotSyncedError"
  | invalidShard .. => "InvalidShardIdError"
  | invalidTransaction .. => "InvalidTransactionError"
  | invalidNonce .. => "InvalidNonceError"
  | requestTimeout .. => "RequestTimeoutError"
  | parse .. => "RpcParseError"
  | internal .. => "RpcInternalError"

/-- What a failure tells beyond its message. -/
def particulars : Failure → Members
  | network _ r => [("retryable", r)]
  | http s _ => [("status", s)]
  | exhausted n => [("attempts", n)]
  | accountNotFound a | invalidAccount a | contractMissing a | contractTooLarge a =>
    [("account_id", a)]
  | accessKeyNotFound a k => [("account_id", a), ("public_key", k)]
  | unknownBlock r => [("reference", r)]
  | unknownChunk h => [("chunk_hash", h)]
  | unknownReceipt i => [("receipt_id", i)]
  | contractFailed c m x => [("contract_id", c), ("method_name", m), ("execution_message", x)]
  | invalidShard i => [("shard_id", i)]
  | invalidTransaction _ _ c s => [("shard_congested", c), ("shard_stuck", s)]
  | invalidNonce t a => [("tx_nonce", t), ("ak_nonce", a)]
  | requestTimeout _ h => [("transaction_hash", h)]
  | _ => []

/-- A failure from its name, its message and its particulars. -/
def ofRecord? (name : String) (ms : Members) : Option Failure :=
  let message := ms.get "message"
  let words := ms.word "message"
  match name with
  | "NetworkError" => some (.network words (!ms.has "retryable" || (ms.get "retryable").isTrue))
  | "HttpError" => some (.http (((ms.get "status").whole?).getD 0) (ms.word "body"))
  | "RpcTimeoutError" => some (.exhausted (((ms.get "attempts").whole?).getD 0))
  | "InvalidResponseError" => some (.invalidResponse words)
  | "AccountNotFoundError" => some (.accountNotFound (ms.word "account_id"))
  | "InvalidAccountError" => some (.invalidAccount (ms.word "account_id"))
  | "AccessKeyNotFoundError" =>
    some (.accessKeyNotFound (ms.word "account_id") (ms.word "public_key"))
  | "UnknownBlockError" => some (.unknownBlock (ms.get "reference"))
  | "UnknownChunkError" => some (.unknownChunk (ms.word "chunk_hash"))
  | "UnknownEpochError" => some (.unknownEpoch message)
  | "UnknownReceiptError" => some (.unknownReceipt (ms.word "receipt_id"))
  | "ContractNotDeployedError" => some (.contractMissing (ms.word "account_id"))
  | "ContractStateTooLargeError" => some (.contractTooLarge (ms.word "account_id"))
  | "ContractExecutionError" =>
    some (.contractFailed (ms.word "contract_id") (ms.get "method_name") message)
  | "ShardUnavailableError" => some (.shardUnavailable message)
  | "NodeNotSyncedError" => some (.notSynced message)
  | "InvalidShardIdError" => some (.invalidShard (ms.get "shard_id"))
  | "InvalidTransactionError" =>
    some (.invalidTransaction message (ms.record "details") (ms.get "shard_congested").isTrue
      (ms.get "shard_stuck").isTrue)
  | "InvalidNonceError" => some (.invalidNonce (ms.get "tx_nonce") (ms.get "ak_nonce"))
  | "RequestTimeoutError" => some (.requestTimeout message (ms.get "transaction_hash").text?)
  | "RpcParseError" => some (.parse message)
  | "RpcInternalError" => some (.internal message)
  | _ => none

end Failure

namespace Error

def name : Error → String
  | .client k _ _ _ => k.name
  | rpc f _ _ _ => f.name
  | failed .. => "TransactionFailedError"
  | host _ => ""

def groups : Error → List String
  | .client k _ _ _ => k.groups
  | rpc .. => ["RpcError"]
  | _ => []

def particulars : Error → Members
  | rpc f _ _ _ => f.particulars
  | _ => []

/-- The parts that an error of a name needs, and those that it may have besides. -/
def partsOf : String → List String × List String
  | "ParseAccountIdError" | "ParseAmountError" | "ParseGasError" | "ParseKeyError"
  | "ParseHashError" | "ConfigError" | "TransactionBuildError" => (["message"], ["details"])
  | "EncodingError" | "KeyNotFoundError" | "InvalidKeyFormatError" | "PlatformError" =>
    (["message"], ["details", "cause"])
  | "InvalidSeedPhraseError" | "SigningFailedError" | "KeyDerivationError" =>
    ([], ["message", "cause"])
  | "NoSignerError" => ([], ["message"])
  | "RpcError" => (["message"], ["rpc_code", "data", "code", "details", "cause"])
  | "NetworkError" => (["message"], ["retryable", "cause"])
  | "HttpError" => (["status"], ["body"])
  | "RpcTimeoutError" => (["attempts"], ["cause"])
  | "InvalidResponseError" => (["message"], ["cause"])
  | "AccountNotFoundError" | "InvalidAccountError" | "ContractNotDeployedError"
  | "ContractStateTooLargeError" => (["account_id"], [])
  | "AccessKeyNotFoundError" => (["account_id", "public_key"], [])
  | "UnknownBlockError" => (["reference"], [])
  | "UnknownChunkError" => (["chunk_hash"], [])
  | "UnknownReceiptError" => (["receipt_id"], [])
  | "ContractExecutionError" => (["contract_id", "method_name", "message"], [])
  | "UnknownEpochError" | "ShardUnavailableError" | "NodeNotSyncedError" | "RpcParseError"
  | "RpcInternalError" => (["message"], [])
  | "InvalidShardIdError" => (["shard_id"], [])
  | "InvalidTransactionError" => (["message"], ["details", "shard_congested", "shard_stuck"])
  | "InvalidNonceError" => (["tx_nonce", "ak_nonce"], [])
  | "RequestTimeoutError" => (["message"], ["transaction_hash"])
  | "TransactionFailedError" => (["message"], ["outcome"])
  | _ => (["message"], ["code", "details", "cause"])

/-- All parts are there that an error of the name needs, and no others than it may have. -/
def hasParts (name : String) (ms : Members) : Bool :=
  let (needed, allowed) := partsOf name
  needed.all (Members.has ms) && ms.all fun p => ("kind" :: needed ++ allowed).contains p.1

/-- The code of a record, or the one that errors of its name have. -/
def codeOf (ms : Members) (standard : Code) : Except Error Code :=
  match ms.lookup "code" with
  | none => .ok standard
  | some v => match v.number?.bind fun n => Code.ofNumber? n.toNat with
    | some c => .ok c
    | none => .error (.badValue (v.literal ++ " is not a valid ErrorCode"))

/-- An error of the client or of a request, from its kind, its parts and an earlier cause. -/
def ofRecord (ms : Members) (cause : Option Error) : Except Error Error := do
  let name := ms.word "kind"
  let code ← codeOf ms (if name = "RpcError" then .rpc else .unknown)
  if !hasParts name ms then throw .wrongKind
  let details := ms.record "details"
  match Failure.ofRecord? name ms, name with
  | some f, _ => return .request f cause
  | none, "RpcError" =>
    return .rpc (.unclassified (ms.get "message") code details) (ms.get "rpc_code")
      (ms.get "data") cause
  | none, "TransactionFailedError" => return .failed (ms.word "message") none
  | none, _ =>
    let k := Kind.ofName name code
    let message := if ms.has "message" then ms.word "message" else k.standardMessage
    return .client k message details cause

end Error

end LedgerClient
