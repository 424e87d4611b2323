import LedgerClient.Error.Basic
import LedgerClient.Value.Record

/-!
What is sent to a node, and what comes back.
-/

namespace LedgerClient

structure Request where
  url : String
  headers : Members
  id : Nat
  method : String
  params : Value

def Request.body (q : Request) : Value :=
  .object [("jsonrpc", .text "2.0"), ("id", .int q.id), ("method", .text q.method),
    ("params", q.params)]

instance : ToValue Request := ⟨fun q =>
  ([("url", q.url), ("headers", q.headers), ("body", q.body)] : Members)⟩

/-- An answer of any status, or how the transport failed. -/
inductive Reply where
  | answer (status : Int) (body : String)
  | timedOut
  | unreachable (message : String)
  | failed (message : String)
  | raised (e : Error)

end LedgerClient
