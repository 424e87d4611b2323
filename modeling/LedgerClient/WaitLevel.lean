/-!
How far a submitted transaction has come, and so how long a submission waits before answering.
-/

namespace LedgerClient

inductive WaitLevel where
  | none
  | included
  | executedOptimistic
  | includedFinal
  | executed
  | final
  deriving DecidableEq, Repr, Inhabited

namespace WaitLevel

def all : List WaitLevel := [none, included, executedOptimistic, includedFinal, executed, final]

def text : WaitLevel → String
  | none => "NONE"
  | included => "INCLUDED"
  | executedOptimistic => "EXECUTED_OPTIMISTIC"
  | includedFinal => "INCLUDED_FINAL"
  | executed => "EXECUTED"
  | final => "FINAL"

def ofText? (s : String) : Option WaitLevel := all.find? (·.text == s)

/-- Levels at which nothing has been executed yet. -/
def isPending : WaitLevel → Bool
  | none | included | includedFinal => true
  | _ => false

end WaitLevel

end LedgerClient
