import LedgerClient.Value.Basic
import LedgerClient.WaitLevel

/-!
What a node answers to queries. Only the fields that this client reads are kept.
-/

namespace LedgerClient

namespace View

structure Account where
  amount : Int
  locked : Int
  codeHash : String
  storageUsage : Int
  storagePaidAt : Int
  blockHeight : Int
  blockHash : String

/-- What a key may do, as the node puts it: a word, or an object with the particulars. -/
inductive Permission where
  | word (s : String)
  | particulars (ms : Members)

structure AccessKey where
  nonce : Int
  permission : Permission
  blockHeight : Int
  blockHash : Option String

structure KeyEntry where
  publicKey : String
  accessKey : AccessKey

structure KeyList where
  keys : List KeyEntry
  blockHeight : Int
  blockHash : Option String

structure CallResult where
  result : List Int
  logs : List String
  blockHeight : Int
  blockHash : Option String

structure Header where
  height : Int
  hash : String
  previousHash : Option String
  timestamp : Int
  epochId : Option String

structure Block where
  author : Option String
  header : Header
  chunks : List Members

structure Sync where
  latestBlockHash : String
  latestBlockHeight : Int
  latestBlockTime : Option String
  syncing : Bool

structure Status where
  chainId : String
  protocolVersion : Int
  sync : Sync
  version : Members

structure GasPrice where
  gasPrice : Int

/-- Execution of a transaction or of one of its receipts. -/
structure Execution where
  id : String
  blockHash : Option String
  outcome : Members

/-- Where a transaction ended: an object that names success or failure, or a bare word. -/
inductive EndState where
  | particulars (ms : Members)
  | word (s : String)

structure Outcome where
  level : WaitLevel
  status : Option EndState
  transaction : Option Members
  transactionOutcome : Option Execution
  receipts : List Execution

def AccessKey.isFullAccess (k : AccessKey) : Bool :=
  match k.permission with
  | .word s => s == "FullAccess"
  | .particulars _ => false

end View

end LedgerClient
