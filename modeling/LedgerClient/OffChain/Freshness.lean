import LedgerClient.OffChain.Signed

/-!
Checking a signed message without a node: its nonce is neither from the future nor too old, and
the signature is the key's.
-/

namespace LedgerClient.OffChain

/-- The greatest age of a nonce in seconds: a whole number or a fraction, or a float. -/
inductive AgeLimit where
  | exact (seconds : Rat)
  | float (seconds : Float)

namespace AgeLimit

def whole (seconds : Int) : AgeLimit := .exact seconds

def standard : AgeLimit := .float 300.0

/-- The greatest whole number that a finite float is not below. -/
def floor (f : Float) : Int :=
  let n := Decimal.truncate f
  if (Decimal.whole? f).isNone && f < 0.0 then n - 1 else n

/-- Whether an age in milliseconds is within the limit. -/
def admits : AgeLimit → Int → Bool
  | exact s, age => (age : Rat) ≤ s * 1000
  | float s, age =>
    let limit := s * 1000.0
    if limit.isNaN then true
    else if limit.isInf then 0.0 < limit
    else age ≤ floor limit

end AgeLimit

/-- Made at or before the present, and not too long ago. -/
def isFresh (nonce : Bytes) (now : Int) (limit : AgeLimit) : Bool :=
  (timestamp nonce : Int) ≤ now && limit.admits (now - timestamp nonce)

/-- The check that needs no node. Without a limit the time does not count. -/
def verifySignature (m : SignedMessage) (p : Params) (now : Int) (limit : Option AgeLimit) :
    Except Error Bool :=
  if limit.all (isFresh p.nonce now) then do
    m.publicKey.verify (← p.digest).bytes m.signature
  else .ok false

end LedgerClient.OffChain
