/-!
Causes by which a node names what went wrong.
-/

namespace LedgerClient

inductive Cause where
  | unknownAccount
  | invalidAccount
  | unknownAccessKey
  | unknownBlock
  | unknownChunk
  | unknownEpoch
  | unknownReceipt
  | noContractCode
  | tooLargeContractState
  | contractExecution
  | unavailableShard
  | noSyncedBlocks
  | notSyncedYet
  | invalidShardId
  | invalidTransaction
  | timeout
  | parse
  | internal
  deriving DecidableEq, Repr

namespace Cause

def table : List (String × Cause) :=
  [("UNKNOWN_ACCOUNT", unknownAccount), ("INVALID_ACCOUNT", invalidAccount),
   ("UNKNOWN_ACCESS_KEY", unknownAccessKey), ("UNKNOWN_BLOCK", unknownBlock),
   ("UNKNOWN_CHUNK", unknownChunk), ("UNKNOWN_EPOCH", unknownEpoch),
   ("UNKNOWN_RECEIPT", unknownReceipt), ("NO_CONTRACT_CODE", noContractCode),
   ("TOO_LARGE_CONTRACT_STATE", tooLargeContractState),
   ("CONTRACT_EXECUTION_ERROR", contractExecution), ("UNAVAILABLE_SHARD", unavailableShard),
   ("NO_SYNCED_BLOCKS", noSyncedBlocks), ("NOT_SYNCED_YET", notSyncedYet),
   ("INVALID_SHARD_ID", invalidShardId), ("INVALID_TRANSACTION", invalidTransaction),
   ("TIMEOUT_ERROR", timeout), ("PARSE_ERROR", parse), ("INTERNAL_ERROR", internal)]

def ofName? (name : String) : Option Cause := table.lookup name

end Cause

end LedgerClient
