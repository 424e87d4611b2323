import LedgerClient.Client.Config
import LedgerClient.Draft.Delegate

/-!
A client: a node, a signer and a configuration. Handles with other signers share the sessions, the
nonces and the turns of the client that they come from, and only that one may close its node.
-/

namespace LedgerClient

structure Client where
  node : Node Float
  owned : Bool
  signer : Option Holder
  level : WaitLevel

namespace Client

abbrev Run (α : Type) := Act Shared Float α

/-- A client with a node of its own. -/
def connect (c : Config) (signer : Option Holder) : Run Client := do
  let url ← Act.ofExcept c.address
  let line ← Act.changeWith Shared.addLine
  return ⟨⟨url, c.policy, c.timeout, c.headers, line⟩, true, signer, c.level⟩

/-- A client over a node that belongs to someone else. -/
def sharing (node : Node Float) (c : Config) (signer : Option Holder) : Client :=
  ⟨node, false, signer, c.level⟩

def close (c : Client) : Run Unit := if c.owned then c.node.close else pure ()

/-- A handle with another signer, or with none. -/
def withSigner (c : Client) (h : Option Holder) : Client := { c with owned := false, signer := h }

def account? (c : Client) : Option AccountId := c.signer.map fun h => h.signer.account

def draft (c : Client) (receiver : AccountId) : Draft := Draft.start receiver c.signer c.level

def transfer (c : Client) (receiver : AccountId) (amount : Value) (level : Option WaitLevel) :
    Run View.Outcome := do
  let d ← Act.ofExcept ((c.draft receiver).append (.transfer amount))
  Draft.send { d with level := level.getD d.level } c.node

/-- Arguments of a view call: none, raw bytes, or a value as JSON. -/
def viewArguments : Value → Except Error Bytes
  | .null => .ok []
  | .bytes bs => .ok bs
  | v => CallEdit.encodeArguments v

def viewFunction (c : Client) (contract : AccountId) (method : String) (arguments : Bytes)
    (block : BlockRef) : Run View.CallResult :=
  c.node.viewFunction contract method arguments block

def signMessage (c : Client) (p : OffChain.Params) : Run OffChain.SignedMessage :=
  match c.signer with
  | some h => h.signMessage p
  | none => throw .noSigner

def display (c : Client) : String :=
  "Near(url=" ++ Text.quoted c.node.url ++ ", account="
    ++ (match c.account? with
      | some a => a.display
      | none => "None") ++ ")"

end Client

end LedgerClient
