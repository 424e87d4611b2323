import LedgerClient.Node.Query
import LedgerClient.Value.Record

/-!
How a client reaches the ledger: a network by name or a node by its address, with limits, headers
and the level that submissions wait for.
-/

namespace LedgerClient

/-- A number of seconds, or a standard one in its place. -/
def seconds (v : Value) (standard : Float) : Float :=
  match v with
  | .float f => f
  | .int n => Float.ofInt n
  | _ => standard

/-- A policy from a record; what is missing is as in the standard one. A word stands for a single
attempt. -/
def RetryPolicy.ofValue : Value → RetryPolicy Float
  | .object ms =>
    ⟨((Members.get ms "max_retries").whole?).getD standard.maxRetries,
      seconds (Members.get ms "initial_delay") standard.initialDelay,
      seconds (Members.get ms "max_delay") standard.maxDelay⟩
  | .text _ => once
  | _ => standard

structure Config where
  network : String
  /-- An address of its own; an empty one counts as none. -/
  url : Option String
  timeout : Value
  policy : RetryPolicy Float
  headers : Members
  level : WaitLevel

namespace Config

/-- Networks with the addresses of their nodes. -/
def networks : List (String × String) :=
  [("mainnet", "https://free.rpc.fastnear.com"), ("testnet", "https://test.rpc.fastnear.com")]

def standard : Config :=
  ⟨"testnet", none, .float 30.0, RetryPolicy.standard, [], .executedOptimistic⟩

def unknownNetwork (name : String) : Error :=
  .client .config
    ("Unknown network " ++ Text.quoted name ++ "; set rpc_url or use one of "
      ++ (Value.list (networks.map fun n => .text n.1)).literal)
    [("network", .text name)] none

/-- The address to connect to. -/
def address (c : Config) : Except Error String :=
  match c.url, networks.lookup c.network with
  | some u, found => if u == "" then named found else .ok u
  | none, found => named found
where
  named : Option String → Except Error String
    | some u => .ok u
    | none => .error (unknownNetwork c.network)

/-- A configuration from a record; what is missing is as in the standard one. -/
def ofRecord (ms : Members) : Except Error Config := do
  let level ← ms.given "default_wait_until" standard.level WaitLevel.ofValue
  return ⟨((ms.get "network").text?).getD standard.network, (ms.get "rpc_url").text?,
    if ms.has "timeout" then ms.get "timeout" else standard.timeout,
    RetryPolicy.ofValue (ms.get "retry"), ms.record "headers", level⟩

/-- A setting of the environment; an empty one counts as none. -/
def setting (environment : List (String × String)) (name : String) : Option String :=
  (environment.lookup name).filter (· != "")

/-- The standard with the network and the address that the environment names. -/
def ofEnvironment (environment : List (String × String)) : Config :=
  { standard with
    network := (setting environment "NEAR_NETWORK").getD standard.network
    url := (setting environment "NEAR_RPC_URL").or standard.url }

end Config

end LedgerClient
