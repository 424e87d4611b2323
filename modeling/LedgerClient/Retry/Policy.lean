import LedgerClient.Decimal.Exact
import LedgerClient.Error.Basic

/-!
How often a request is tried, and how long to wait in between: twice as long after each failure,
up to a limit.
-/

namespace LedgerClient

/-- Lengths of time. -/
class Span (δ : Type) where
  /-- The product with a power of two. -/
  scale : δ → Int → Except Error δ
  /-- The second one if it is less, else the first. -/
  lesser : δ → δ → δ

structure RetryPolicy (δ : Type) where
  maxRetries : Int
  initialDelay : δ
  maxDelay : δ

namespace RetryPolicy

variable {δ : Type}

def attempts (p : RetryPolicy δ) : Int := p.maxRetries + 1

/-- The pause after a failed attempt; attempts are counted from zero. -/
def delay [Span δ] (p : RetryPolicy δ) (attempt : Int) : Except Error δ :=
  (Span.scale p.initialDelay attempt).map (Span.lesser · p.maxDelay)

end RetryPolicy

instance : Span Float where
  scale d n := match Decimal.powerOfTwo? n with
    | some p => .ok (d * p)
    | none => .error (.host (.outOfRange "int too large to convert to float"))
  lesser a b := if b < a then b else a

/-- Three retries, after half a second at first and five seconds at most. -/
def RetryPolicy.standard : RetryPolicy Float := ⟨3, 0.5, 5.0⟩

/-- A single attempt. -/
def RetryPolicy.once : RetryPolicy Float := { RetryPolicy.standard with maxRetries := 0 }

end LedgerClient
