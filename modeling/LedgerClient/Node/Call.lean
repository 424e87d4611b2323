import LedgerClient.Error.Report
import LedgerClient.Json.Document
import LedgerClient.Retry.Loop
import LedgerClient.Shared

/-!
Calls to a node: a request, what its reply amounts to, and repetition while that may help.
-/

namespace LedgerClient

/-- A node as one handle reaches it. -/
structure Node (δ : Type) where
  url : String
  policy : RetryPolicy δ
  timeout : Value
  headers : Members
  /-- The number of the handle's line. -/
  line : Nat

/-- What an answer that arrived amounts to. -/
def Reply.envelope (v : Value) : Except Error Value :=
  match v with
  | .object ms =>
    if !(Members.get ms "error").isNull then .error (Report.errorOf (Members.get ms "error"))
    else match ms.lookup "result" with
      | some r => .ok r
      | none => .error (.request (.invalidResponse "Missing result in response") none)
  | _ => .error (.request (.invalidResponse "JSON-RPC response is not an object") none)

/-- The result that a reply carries, or the error that it stands for. -/
def Reply.result (url : String) : Reply → Except Error Value
  | timedOut => .error (.request (.network ("Request to " ++ url ++ " timed out") true) none)
  | unreachable m =>
    .error (.request (.network ("Connection to " ++ url ++ " failed: " ++ m) true) none)
  | failed m => .error (.request (.network ("HTTP request failed: " ++ m) false) none)
  | raised e => .error e
  | answer status body =>
    if status ≠ 200 then .error (.request (.http status body) none)
    else match Json.parse body with
      | .ok v => envelope v
      | .error (.host (.notJson m)) =>
        .error (.request (.invalidResponse ("Invalid JSON response: " ++ m)) none)
      | .error e => .error e

namespace Node

variable {δ : Type}

def allHeaders (n : Node δ) : Members :=
  n.headers.foldl (fun hs h => hs.put h.1 h.2) [("Content-Type", .text "application/json")]

/-- One request and the result that its reply carries. Parameters that cannot be written are found
on the way out, when the request has got its number. -/
def attempt (n : Node δ) (method : String) (params : Value) : Act Shared δ Value := do
  let before ← Act.change (·.dial n.line n.timeout)
  Act.ofExcept (Json.check params)
  let reply ← Act.ask ⟨n.url, n.allHeaders, (before.line n.line).lastId + 1, method, params⟩
  Act.ofExcept (reply.result n.url)

/-- A call, repeated while that may help. Every attempt has a number of its own. -/
def call [Span δ] (n : Node δ) (method : String) (params : Value) : Act Shared δ Value :=
  n.policy.repeating fun _ => n.attempt method params

def close (n : Node δ) : Act Shared δ Unit := do
  let _ ← Act.change (·.hangUp n.line)

/-- The same node over a line of its own. -/
def clone (n : Node δ) : Act Shared δ (Node δ) := do
  let i ← Act.changeWith Shared.addLine
  return { n with line := i }

def display (n : Node δ) : String := "RpcClient(" ++ Text.quoted n.url ++ ")"

end Node

end LedgerClient
