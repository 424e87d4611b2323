import LedgerClient.Error.Code
import LedgerClient.View.Basic
import LedgerClient.Value.Literal

/-!
Everything that can go wrong, by cause. A fault of the host concerns the values handed over and
not the ledger; all other errors have a code, a message and perhaps details and an earlier cause.
-/

namespace LedgerClient

/-- One step from a value to a part of it. -/
inductive Step where
  | field (name : String)
  | index (i : Nat)
  deriving DecidableEq, Repr

/-- What keeps a value from being read as a field's type. -/
inductive Mismatch where
  | missing
  | notInt
  | badInt
  | fractionalInt
  | notFinite
  | tooLarge
  | notText
  | notBool
  | badBool
  | notList
  | notObject
  | notModel
  | notMember
  | badValue
  | badJson
  deriving DecidableEq, Repr

structure Issue where
  path : List Step
  mismatch : Mismatch
  deriving DecidableEq, Repr

/-- What calls within one another are made for. -/
inductive Descent where
  | readingList
  | readingObject
  | writing
  | calling
  deriving DecidableEq, Repr

def Descent.text : Descent → String
  | readingList => "decoding a JSON array from a unicode string"
  | readingObject => "decoding a JSON object from a unicode string"
  | writing => "encoding a JSON object"
  | calling => "calling a Python object"

inductive Fault where
  | badValue (message : String)
  | outOfRange (message : String)
  | interrupted (message : String)
  /-- A value of the wrong kind; without a message where the kind alone is at fault. -/
  | wrongKind (message : Option String)
  | noMember
  | notJson (message : String)
  | notUtf8
  | notBase64
  /-- Calls within one another, more than the stack holds. -/
  | tooDeep (descent : Descent)
  | mismatch (issues : List Issue)

/-- Where an error belongs of which nothing more is known. -/
inductive Group where
  | any
  | parse
  | signer
  | keyStore
  deriving DecidableEq, Repr

/-- Errors found by the client itself, without a node. -/
inductive Kind where
  | general (group : Group) (code : Code)
  | account
  | amount
  | gas
  | key
  | digest
  | encoding
  | seedPhrase
  | signing
  | derivation
  | keyMissing
  | keyFormat
  | platform
  | config
  | noSigner
  | build
  deriving DecidableEq, Repr

def Kind.code : Kind → Code
  | general _ c => c
  | account => .invalidAccountId
  | amount => .invalidAmount
  | gas => .invalidGas
  | key => .invalidKey
  | digest => .invalidHash
  | encoding => .encoding
  | seedPhrase => .invalidSeedPhrase
  | signing => .signingFailed
  | derivation => .keyDerivationFailed
  | keyMissing => .keyNotFound
  | keyFormat => .invalidKeyFormat
  | platform => .platformUnavailable
  | config => .config
  | noSigner => .noSigner
  | build => .transactionBuild

/-- Malformed input. -/
def Kind.isParse : Kind → Bool
  | general .parse _ | account | amount | gas | key | digest => true
  | _ => false

def Kind.isKeyStore : Kind → Bool
  | general .keyStore _ | keyMissing | keyFormat | platform => true
  | _ => false

def Kind.isSigner : Kind → Bool
  | general .signer _ | seedPhrase | signing | derivation => true
  | k => k.isKeyStore

/-- The message of an error that has nothing particular to say. -/
def Kind.standardMessage : Kind → String
  | seedPhrase => "Invalid seed phrase"
  | signing => "Signing failed"
  | derivation => "Key derivation failed"
  | noSigner => "No signer configured. Use with_signer() or pass signer="
  | _ => ""

/-- What a request to a node came to. Values that the node sent are kept as they came. -/
inductive Failure where
  | unclassified (message : Value) (code : Code) (details : Members)
  | network (message : String) (retryable : Bool)
  | http (status : Int) (body : String)
  /-- Every attempt failed. -/
  | exhausted (attempts : Int)
  | invalidResponse (message : String)
  | accountNotFound (account : String)
  | invalidAccount (account : String)
  | accessKeyNotFound (account key : String)
  | unknownBlock (reference : Value)
  | unknownChunk (hash : String)
  | unknownEpoch (message : Value)
  | unknownReceipt (id : String)
  | contractMissing (account : String)
  | contractTooLarge (account : String)
  | contractFailed (contract : String) (method message : Value)
  | shardUnavailable (message : Value)
  | notSynced (message : Value)
  | invalidShard (id : Value)
  | invalidTransaction (message : Value) (details : Members) (congested stuck : Bool)
  | invalidNonce (tx ak : Value)
  | requestTimeout (message : Value) (hash : Option String)
  | parse (message : Value)
  | internal (message : Value)

inductive Error where
  | host (fault : Fault)
  | client (kind : Kind) (message : String) (details : Members) (cause : Option Error)
  | rpc (failure : Failure) (rpcCode data : Value) (cause : Option Error)
  /-- A transaction that was executed and failed. -/
  | failed (message : String) (outcome : Option View.Outcome)

instance : Inhabited Error := ⟨.host .noMember⟩

namespace Failure

def code : Failure → Code
  | unclassified _ c _ => c
  | network _ _ => .network
  | http _ _ => .http
  | exhausted _ => .timeout
  | invalidResponse _ => .invalidResponse
  | accountNotFound _ => .accountNotFound
  | invalidAccount _ => .invalidAccount
  | accessKeyNotFound _ _ => .accessKeyNotFound
  | unknownBlock _ => .unknownBlock
  | unknownChunk _ => .unknownChunk
  | unknownEpoch _ => .unknownEpoch
  | unknownReceipt _ => .unknownReceipt
  | contractMissing _ => .contractNotDeployed
  | contractTooLarge _ => .contractStateTooLarge
  | contractFailed _ _ _ => .contractExecution
  | shardUnavailable _ => .shardUnavailable
  | notSynced _ => .nodeNotSynced
  | invalidShard _ => .invalidShardId
  | invalidTransaction _ _ _ _ => .invalidTransaction
  | invalidNonce _ _ => .invalidNonce
  | requestTimeout _ _ => .requestTimeout
  | parse _ => .parse
  | internal _ => .internal

def text : Failure → String
  | unclassified m _ _ => m.display
  | network m _ => m
  | http status body =>
    "HTTP " ++ Text.intText status ++ ": " ++ String.ofList (body.toList.take 200)
  | exhausted n => "Request failed after " ++ Text.intText n ++ " attempts"
  | invalidResponse m => m
  | accountNotFound a => "Account not found: " ++ a
  | invalidAccount a => "Invalid account: " ++ a
  | accessKeyNotFound a k => "Access key not found: " ++ k ++ " for account " ++ a
  | unknownBlock r => "Unknown block: " ++ r.display
  | unknownChunk h => "Unknown chunk: " ++ h
  | unknownEpoch m => "Unknown epoch: " ++ m.display
  | unknownReceipt i => "Unknown receipt: " ++ i
  | contractMissing a => "No contract deployed on account: " ++ a
  | contractTooLarge a => "Contract state too large for account: " ++ a
  | contractFailed c method m =>
    "Contract execution failed on " ++ c
      ++ (if method.isTruthy then "." ++ method.display else "") ++ ": " ++ m.display
  | shardUnavailable m => "Shard unavailable: " ++ m.display
  | notSynced m => "Node not synced: " ++ m.display
  | invalidShard i => "Invalid shard ID: " ++ i.display
  | invalidTransaction m _ _ _ => "Invalid transaction: " ++ m.display
  | invalidNonce tx ak =>
    "Invalid nonce: transaction nonce " ++ tx.display ++ " must be greater than access key nonce "
      ++ ak.display
  | requestTimeout m _ => "Request timeout: " ++ m.display
  | parse m => "Parse error: " ++ m.display
  | internal m => "Internal error: " ++ m.display

/-- The message of a failure; one that no rule classified keeps what the node sent. -/
def message : Failure → Value
  | unclassified m _ _ => m
  | f => .text f.text

def details : Failure → Members
  | unclassified _ _ ds => ds
  | http status _ => [("status", .int status)]
  | exhausted n => [("attempts", .int n)]
  | invalidTransaction _ ds _ _ => ds
  | invalidNonce tx ak => [("tx_nonce", tx), ("ak_nonce", ak)]
  | requestTimeout _ (some h) => if h == "" then [] else [("transaction_hash", .text h)]
  | _ => []

/-- Whether repeating the request may succeed; `rpcCode` counts only where no rule applied. -/
def isRetryable (rpcCode : Value) : Failure → Bool
  | unclassified _ c _ =>
    c == .rpc && (rpcCode.number? == some (-32000) || rpcCode.number? == some (-32603))
  | network _ retryable => retryable
  | http status _ => status == 408 || status == 429 || (500 ≤ status && status < 600)
  | exhausted _ => true
  | shardUnavailable _ => true
  | notSynced _ => true
  | invalidTransaction _ _ congested stuck => congested || stuck
  | invalidNonce _ _ => true
  | requestTimeout _ _ => true
  | internal _ => true
  | _ => false

end Failure

namespace Error

/-- An error of the client with neither details nor an earlier cause. -/
abbrev plain (kind : Kind) (message : String) : Error := .client kind message [] none

abbrev badValue (message : String) : Error := .host (.badValue message)

abbrev wrongKind : Error := .host (.wrongKind none)

/-- A whole number with more digits than are written was to be put into a text. -/
abbrev unwritten : Error := badValue Text.unwrittenText

/-- Counts and places lie below this number. -/
def indexLimit : Nat := Nat.pow 2 63

abbrev noIndex : Error := .host (.outOfRange "cannot fit 'int' into an index-sized integer")

/-- An operation that needs a signer found none. -/
def noSigner : Error := .plain .noSigner Kind.noSigner.standardMessage

/-- A failure of a request that is not an answer of a node. -/
abbrev request (f : Failure) (cause : Option Error) : Error := .rpc f .null .null cause

def code? : Error → Option Code
  | host _ => none
  | .client k _ _ _ => some k.code
  | rpc f _ _ _ => some f.code
  | failed _ _ => some .transactionFailed

def message? : Error → Option Value
  | host _ => none
  | .client _ m _ _ => some (.text m)
  | rpc f _ _ _ => some f.message
  | failed m _ => some (.text ("Transaction failed: " ++ m))

def details : Error → Members
  | host _ => []
  | .client _ _ ds _ => ds
  | rpc f _ _ _ => f.details
  | failed _ _ => []

def cause? : Error → Option Error
  | .client _ _ _ c => c
  | rpc _ _ _ c => c
  | _ => none

def isRetryable : Error → Bool
  | rpc f rpcCode _ _ => f.isRetryable rpcCode
  | _ => false

/-- Whether the very same request may be sent again. A rejected nonce needs a new signature. -/
def shouldResend : Error → Bool
  | rpc (.invalidNonce _ _) _ _ _ => false
  | e => e.isRetryable

/-- The ledger's nonce as the rejection of a nonce names it. -/
def rejection? : Error → Option Value
  | rpc (.invalidNonce _ ledgers) _ _ _ => some ledgers
  | _ => none

def transactionHash (e : Error) : Value := e.details.get "transaction_hash"

/-- Whether a value is at fault, and not its kind or the surroundings. -/
def isValueFault : Error → Bool
  | .client k _ _ _ => k.isParse
  | host (.badValue _) | host (.mismatch _) => true
  | host (.notJson _) | host .notUtf8 | host .notBase64 => true
  | _ => false

/-- The text of a host fault, where it has one. -/
def faultText : Fault → String
  | .badValue m => m
  | .outOfRange m => m
  | .interrupted m => m
  | .wrongKind (some m) => m
  | .notJson m => m
  | .tooDeep d => "maximum recursion depth exceeded while " ++ d.text
  | _ => ""

/-- The headline of an error: its code and its message. -/
def headline (c : Code) (message : String) : String := "[" ++ c.name ++ "] " ++ message

def withDetails (ds : Members) (s : String) : String :=
  if ds.isEmpty then s else s ++ " | Details: " ++ (Value.object ds).literal

/-- One line with code, message, details and the causes behind it. -/
def display : Error → String
  | host f => faultText f
  | .client k m ds none => withDetails ds (headline k.code m)
  | .client k m ds (some c) => withDetails ds (headline k.code m) ++ " | Caused by: " ++ c.display
  | rpc f _ _ none => withDetails f.details (headline f.code f.text)
  | rpc f _ _ (some c) =>
    withDetails f.details (headline f.code f.text) ++ " | Caused by: " ++ c.display
  | failed m _ => headline .transactionFailed ("Transaction failed: " ++ m)

/-- An error as an object, for logs. -/
def toMembers (e : Error) : Members :=
  match e.code?, e.message? with
  | some c, some m =>
    [("code", Value.int c.number), ("message", m)]
      ++ (if e.details.isEmpty then [] else [("details", .object e.details)])
      ++ (match e.cause? with
        | some c => [("cause", Value.text c.display)]
        | none => [])
  | _, _ => []

end Error

end LedgerClient
