import LedgerClient.Value.Record
import LedgerClient.View.Basic

/-!
Views as records, with one member for each field that is kept.
-/

namespace LedgerClient.View

instance : ToValue Account := ⟨fun v =>
  ([("amount", v.amount), ("locked", v.locked), ("code_hash", v.codeHash),
    ("storage_usage", v.storageUsage), ("storage_paid_at", v.storagePaidAt),
    ("block_height", v.blockHeight), ("block_hash", v.blockHash)] : Members)⟩

instance : ToValue Permission := ⟨fun
  | .word s => s
  | .particulars ms => .object ms⟩

instance : ToValue AccessKey := ⟨fun v =>
  ([("nonce", v.nonce), ("permission", v.permission), ("block_height", v.blockHeight),
    ("block_hash", v.blockHash)] : Members)⟩

instance : ToValue KeyEntry := ⟨fun v =>
  ([("public_key", v.publicKey), ("access_key", v.accessKey)] : Members)⟩

instance : ToValue KeyList := ⟨fun v =>
  ([("keys", v.keys), ("block_height", v.blockHeight), ("block_hash", v.blockHash)]
    : Members)⟩

instance : ToValue CallResult := ⟨fun v =>
  ([("result", v.result), ("logs", v.logs), ("block_height", v.blockHeight),
    ("block_hash", v.blockHash)] : Members)⟩

instance : ToValue Header := ⟨fun v =>
  ([("height", v.height), ("hash", v.hash), ("prev_hash", v.previousHash),
    ("timestamp", v.timestamp), ("epoch_id", v.epochId)] : Members)⟩

instance : ToValue Block := ⟨fun v =>
  ([("author", v.author), ("header", v.header), ("chunks", v.chunks)]
    : Members)⟩

instance : ToValue Sync := ⟨fun v =>
  ([("latest_block_hash", v.latestBlockHash), ("latest_block_height", v.latestBlockHeight),
    ("latest_block_time", v.latestBlockTime), ("syncing", v.syncing)] : Members)⟩

instance : ToValue Status := ⟨fun v =>
  ([("chain_id", v.chainId), ("protocol_version", v.protocolVersion), ("sync_info", v.sync),
    ("version", v.version)] : Members)⟩

instance : ToValue GasPrice := ⟨fun v => ([("gas_price", v.gasPrice)] : Members)⟩

instance : ToValue Execution := ⟨fun v =>
  ([("id", v.id), ("block_hash", v.blockHash), ("outcome", v.outcome)] : Members)⟩

instance : ToValue EndState := ⟨fun
  | .word s => s
  | .particulars ms => .object ms⟩

instance : ToValue Outcome := ⟨fun v =>
  ([("final_execution_status", v.level.text), ("status", v.status),
    ("transaction", v.transaction),
    ("transaction_outcome", v.transactionOutcome),
    ("receipts_outcome", v.receipts)] : Members)⟩

end LedgerClient.View
