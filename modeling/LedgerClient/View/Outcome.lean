import LedgerClient.Digest
import LedgerClient.Json.Document
import LedgerClient.Json.Printer
import LedgerClient.View.Basic
import LedgerClient.Wire.Reader

/-!
What the answers say: bytes that a call returned, and how a transaction ended.
-/

namespace LedgerClient.View

namespace CallResult

def raw (r : CallResult) : Except Error Bytes := Digest.bytesOfList "bytes" (r.result.map .int)

def json (r : CallResult) : Except Error Value := r.raw.bind Json.ofBytes

end CallResult

def Header.digest (h : Header) : Except Error Digest := Digest.parse h.hash

namespace Outcome

/-- What the end state says under a name. -/
def endMember? (o : Outcome) (name : String) : Option Value :=
  match o.status with
  | some (.particulars ms) => ms.lookup name
  | _ => none

def isSuccess (o : Outcome) : Bool :=
  (o.endMember? "SuccessValue").isSome || (o.endMember? "SuccessReceiptId").isSome

def isFailure (o : Outcome) : Bool := (o.endMember? "Failure").isSome

def isPending (o : Outcome) : Bool := o.level.isPending

def failureText? (o : Outcome) : Option String :=
  (o.endMember? "Failure").bind (Json.print? Json.spacedSorted)

def transactionHash (o : Outcome) : Value :=
  match o.transactionOutcome, o.transaction with
  | some e, _ => .text e.id
  | none, some ms => Members.get ms "hash"
  | none, none => .null

/-- The value that the last receipt returned; an empty or missing one is no bytes. -/
def successValue (o : Outcome) : Except Error (Option Bytes) :=
  match o.endMember? "SuccessValue" with
  | none => .ok none
  | some v => match v.orElse (.text "") with
    | .text s => (Base64.bytes s).map some
    | _ => .error Error.wrongKind

def json (o : Outcome) : Except Error Value := do
  match ← o.successValue with
  | none | some [] => return .null
  | some bs => Json.ofBytes bs

/-- The log lines of one execution. A text counts as its characters, an object as its keys. -/
def logsOf (e : Execution) : Except Error (List Value) :=
  match (e.outcome.lookup "logs").getD (.list []) with
  | .list xs => .ok xs
  | .text s => .ok (s.toList.map fun c => .text (String.singleton c))
  | .object ms => .ok (ms.map fun p => .text p.1)
  | _ => .error Error.wrongKind

def executions (o : Outcome) : List Execution := o.transactionOutcome.toList ++ o.receipts

def logs (o : Outcome) : Except Error (List Value) := do
  return (← o.executions.mapM logsOf).flatten

end Outcome

end LedgerClient.View
