import LedgerClient.BlockRef
import LedgerClient.Bytes.Base64
import LedgerClient.Node.Call
import LedgerClient.Transaction.Basic
import LedgerClient.View.Outcome
import LedgerClient.View.Shape

/-!
The queries that a node answers, and the submission of transactions.
-/

namespace LedgerClient

def WaitLevel.ofValue (v : Value) : Except Error WaitLevel :=
  match v.text?.bind ofText? with
  | .some l => .ok l
  | .none => .error (.badValue (v.literal ++ " is not a valid TxExecutionStatus"))

namespace Node

variable {δ : Type} [Span δ]

def read {α : Type} (s : Shape α) (v : Value) : Act Shared δ α := Act.ofExcept (s v).toExcept

/-- A query at a block; the particulars stand between its kind and the block. -/
def query (n : Node δ) (kind : String) (particulars : Members) (block : BlockRef) :
    Act Shared δ Value :=
  n.call "query" (.object ([("request_type", .text kind)] ++ particulars ++ block.params))

def viewAccount (n : Node δ) (account : AccountId) (block : BlockRef) :
    Act Shared δ View.Account := do
  read View.Account.shape
    (← n.query "view_account" [("account_id", .text account.text)] block)

def viewAccessKey (n : Node δ) (account : AccountId) (key : String) (block : BlockRef) :
    Act Shared δ View.AccessKey := do
  read View.AccessKey.shape
    (← n.query "view_access_key" [("account_id", .text account.text), ("public_key", .text key)]
      block)

def viewAccessKeys (n : Node δ) (account : AccountId) (block : BlockRef) :
    Act Shared δ View.KeyList := do
  read View.KeyList.shape
    (← n.query "view_access_key_list" [("account_id", .text account.text)] block)

/-- The error text that a view call may answer with instead of a result. -/
def callError? : Value → Option String
  | .object ms =>
    let e := Members.get ms "error"
    if e.isTruthy then some e.display else none
  | _ => none

def viewFunction (n : Node δ) (account : AccountId) (method : String) (arguments : Bytes)
    (block : BlockRef) : Act Shared δ View.CallResult := do
  let v ← n.query "call_function" [("account_id", .text account.text),
    ("method_name", .text method), ("args_base64", .text (Base64.encode arguments))] block
  match callError? v with
  | some message => throw (.request (Report.viewFailure account.text method message) none)
  | none => read View.CallResult.shape v

def block (n : Node δ) (ref : BlockRef) : Act Shared δ View.Block := do
  read View.Block.shape (← n.call "block" (.object ref.params))

def status (n : Node δ) : Act Shared δ View.Status := do
  read View.Status.shape (← n.call "status" (.list []))

/-- The price of gas at a block, or at the latest one. -/
def gasPrice (n : Node δ) (hash : Option String) : Act Shared δ View.GasPrice := do
  let param := match hash with
    | some h => Value.text h
    | none => .null
  read View.GasPrice.shape (← n.call "gas_price" (.list [param]))

def submit (n : Node δ) (t : SignedTransaction) (level : WaitLevel) :
    Act Shared δ View.Outcome := do
  let text ← Act.ofExcept t.toBase64
  read View.Outcome.shape
    (← n.call "send_tx"
      (.object [("signed_tx_base64", .text text), ("wait_until", .text level.text)]))

def transactionStatus (n : Node δ) (hash : Digest) (sender : AccountId) (level : WaitLevel) :
    Act Shared δ View.Outcome := do
  read View.Outcome.shape
    (← n.call "EXPERIMENTAL_tx_status"
      (.object [("tx_hash", .text hash.text), ("sender_account_id", .text sender.text),
        ("wait_until", .text level.text)]))

end Node

end LedgerClient
