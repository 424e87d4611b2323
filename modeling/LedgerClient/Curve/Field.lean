/-!
Arithmetic modulo a prime on representatives below it.
-/

namespace LedgerClient.Field

def sub (p a b : Nat) : Nat := (a + p - b % p) % p

/-- `b` to the power whose `n` lowest bits are those of `e`, by squaring from the highest bit. -/
def powBits (p b e : Nat) : Nat → Nat → Nat
  | 0, acc => acc
  | n + 1, acc =>
    let sq := acc * acc % p
    powBits p b e n (if e.testBit n then sq * b % p else sq)

def pow (p b e : Nat) : Nat := powBits p (b % p) e (e.log2 + 1) (1 % p)

/-- The inverse of a number that the prime does not divide, and zero for zero. -/
def inv (p a : Nat) : Nat := pow p a (p - 2)

/-- Adds up `double` and `add` along the `n` lowest bits of a scalar, highest first. -/
def scale {α : Type} (double : α → α) (add : α → α → α) (base : α) (e : Nat) : Nat → α → α
  | 0, acc => acc
  | n + 1, acc =>
    let twice := double acc
    scale double add base e n (if e.testBit n then add twice base else twice)

end LedgerClient.Field
