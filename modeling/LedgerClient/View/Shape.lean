import LedgerClient.Value.Shape
import LedgerClient.View.Basic

/-!
Shapes of a node's answers. Members that no field names are passed over.
-/

namespace LedgerClient.View

open Shape

def Account.shape : Shape Account := record fun ms =>
  Account.mk <$> required ms "amount" int <*> orElse ms "locked" 0 int
    <*> required ms "code_hash" text <*> required ms "storage_usage" int
    <*> orElse ms "storage_paid_at" 0 int <*> required ms "block_height" int
    <*> required ms "block_hash" text

/-- A word or an object; any other value has the faults of both. -/
def wordOrMembers : Shape (String ⊕ Members)
  | .text s => .ok (.inl s)
  | .object ms => .ok (.inr ms)
  | _ => .faulty [⟨[.field "str"], .notText⟩, ⟨[.field "dict[str,any]"], .notObject⟩]

/-- As `wordOrMembers`, with the faults in the other order. -/
def membersOrWord : Shape (String ⊕ Members)
  | .text s => .ok (.inl s)
  | .object ms => .ok (.inr ms)
  | _ => .faulty [⟨[.field "dict[str,any]"], .notObject⟩, ⟨[.field "str"], .notText⟩]

def Permission.shape : Shape Permission := fun v =>
  (wordOrMembers v).map (Sum.elim .word .particulars)

def AccessKey.shape : Shape AccessKey := record fun ms =>
  AccessKey.mk <$> required ms "nonce" int <*> required ms "permission" Permission.shape
    <*> orElse ms "block_height" 0 int <*> orElse ms "block_hash" none (optional text)

def KeyEntry.shape : Shape KeyEntry := record fun ms =>
  KeyEntry.mk <$> required ms "public_key" text <*> required ms "access_key" AccessKey.shape

def KeyList.shape : Shape KeyList := record fun ms =>
  KeyList.mk <$> orElse ms "keys" [] (list KeyEntry.shape) <*> orElse ms "block_height" 0 int
    <*> orElse ms "block_hash" none (optional text)

def CallResult.shape : Shape CallResult := record fun ms =>
  CallResult.mk <$> orElse ms "result" [] (list int) <*> orElse ms "logs" [] (list text)
    <*> orElse ms "block_height" 0 int <*> orElse ms "block_hash" none (optional text)

def Header.shape : Shape Header := record fun ms =>
  Header.mk <$> required ms "height" int <*> required ms "hash" text
    <*> orElse ms "prev_hash" none (optional text) <*> orElse ms "timestamp" 0 int
    <*> orElse ms "epoch_id" none (optional text)

def Block.shape : Shape Block := record fun ms =>
  Block.mk <$> orElse ms "author" none (optional text) <*> required ms "header" Header.shape
    <*> orElse ms "chunks" [] (list members)

def Sync.shape : Shape Sync := record fun ms =>
  Sync.mk <$> required ms "latest_block_hash" text <*> required ms "latest_block_height" int
    <*> orElse ms "latest_block_time" none (optional text) <*> orElse ms "syncing" false bool

def Status.shape : Shape Status := record fun ms =>
  Status.mk <$> required ms "chain_id" text <*> orElse ms "protocol_version" 0 int
    <*> required ms "sync_info" Sync.shape <*> orElse ms "version" [] members

def GasPrice.shape : Shape GasPrice := record fun ms =>
  GasPrice.mk <$> required ms "gas_price" int

def Execution.shape : Shape Execution := record fun ms =>
  Execution.mk <$> required ms "id" text <*> orElse ms "block_hash" none (optional text)
    <*> orElse ms "outcome" [] members

def EndState.shape : Shape EndState := fun v => (membersOrWord v).map (Sum.elim .word .particulars)

def levelShape : Shape WaitLevel
  | .text s => match WaitLevel.ofText? s with
    | some l => .ok l
    | none => .fault .notMember
  | _ => .fault .notMember

def Outcome.shape : Shape Outcome := record fun ms =>
  Outcome.mk <$> orElse ms "final_execution_status" .none levelShape
    <*> orElse ms "status" none (optional EndState.shape)
    <*> orElse ms "transaction" none (optional members)
    <*> orElse ms "transaction_outcome" none (optional Execution.shape)
    <*> orElse ms "receipts_outcome" [] (list Execution.shape)

end LedgerClient.View
