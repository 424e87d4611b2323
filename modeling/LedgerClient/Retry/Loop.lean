import LedgerClient.Dialogue.Basic
import LedgerClient.Retry.Policy

/-!
Repeating an attempt until it succeeds, fails for good, or was made often enough.
-/

namespace LedgerClient.RetryPolicy

variable {σ δ α : Type} [Span δ]

/-- What is left of the attempts, with the number of the next one and the latest error. -/
def attemptsFrom (p : RetryPolicy δ) (f : Nat → Act σ δ α) :
    Nat → Nat → Option Error → Act σ δ α
  | 0, _, latest => throw (.request (.exhausted p.attempts) latest)
  | left + 1, n, _ => (f n).andThen fun
    | .ok a => pure a
    | .error e =>
      if !e.shouldResend then throw e
      else if left = 0 then attemptsFrom p f left (n + 1) (some e)
      else match p.delay n with
        | .error e' => throw e'
        | .ok d => ExceptT.mk (.pause d (attemptsFrom p f left (n + 1) (some e)).run)

/-- Attempts in turn, numbered from zero, with a pause between two of them. -/
def repeating (p : RetryPolicy δ) (f : Nat → Act σ δ α) : Act σ δ α :=
  p.attemptsFrom f p.attempts.toNat 0 none

end LedgerClient.RetryPolicy
