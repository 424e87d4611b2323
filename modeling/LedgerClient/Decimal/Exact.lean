/-!
Exact relations between binary fractions and whole numbers.
-/

namespace LedgerClient.Decimal

/-- The float nearest to `± digits · 10 ^ exponent`. Exponents far out of range are settled
without computing the power. -/
def nearest (negative : Bool) (digits : List Char) (exponent : Int) : Float :=
  let ds := digits.dropWhile (· == '0')
  let m := ds.foldl (fun n c => n * 10 + (c.toNat - 48)) 0
  let size := (ds.length : Int) + exponent
  let v :=
    if m = 0 ∨ size < -400 then Float.ofScientific 0 false 0
    else if 400 < size then Float.ofScientific 1 false 400
    else if 0 ≤ exponent then Float.ofScientific m false exponent.toNat
    else Float.ofScientific m true (-exponent).toNat
  if negative then -v else v

/-- The whole number that a float is, if it is one. -/
def whole? (f : Float) : Option Int :=
  let bits := f.toBits.toNat
  let e : Nat := bits / Nat.pow 2 52 % Nat.pow 2 11
  let m : Nat := if e = 0 then bits % Nat.pow 2 52 else Nat.pow 2 52 + bits % Nat.pow 2 52
  let q : Int := if e = 0 then -1074 else (e : Int) - 1075
  let sign (n : Nat) : Int := if bits / Nat.pow 2 63 % 2 = 1 then -(n : Int) else n
  if e = 2047 then none
  else if 0 ≤ q then some (sign (m * Nat.pow 2 q.toNat))
  else if m % Nat.pow 2 (-q).toNat = 0 then some (sign (m / Nat.pow 2 (-q).toNat))
  else none

/-- The whole part of a finite float. -/
def truncate (f : Float) : Int :=
  let bits := f.toBits.toNat
  let e : Nat := bits / Nat.pow 2 52 % Nat.pow 2 11
  let m : Nat := if e = 0 then bits % Nat.pow 2 52 else Nat.pow 2 52 + bits % Nat.pow 2 52
  let q : Int := if e = 0 then -1074 else (e : Int) - 1075
  let n := m * Nat.pow 2 q.toNat / Nat.pow 2 (-q).toNat
  if bits / Nat.pow 2 63 % 2 = 1 then -(n : Int) else n

/-- The power of two as a float; zero below the least one and `none` above the greatest. -/
def powerOfTwo? (n : Int) : Option Float :=
  if 1024 ≤ n then none
  else if -1022 ≤ n then some (Float.ofBits (UInt64.ofNat ((n + 1023).toNat * Nat.pow 2 52)))
  else if -1074 ≤ n then some (Float.ofBits (UInt64.ofNat (Nat.pow 2 (n + 1074).toNat)))
  else some (Float.ofBits 0)

end LedgerClient.Decimal
