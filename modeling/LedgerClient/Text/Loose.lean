import LedgerClient.Text.Numeral

/-!
Whole numbers written loosely: zeros in front, single underscores and a fraction of zeros do not
count. What is left without them has to be a plain numeral.
-/

namespace LedgerClient.Text

/-- ASCII digits, of which the first is zero only if it stands alone. -/
def plainNat? : List Char → Option Nat
  | '0' :: _ :: _ => none
  | ds => if ds.all Char.isDigit then decimalValue? ds else none

def plainInt? : List Char → Option Int
  | '-' :: ds => (plainNat? ds).map fun n => -(n : Int)
  | ds => (plainNat? ds).map fun n => (n : Int)

/-- Where a numeral begins behind zeros in front of it. -/
def opensNumeral (c : Char) : Bool := c == '-' || (c.isDigit && c != '0')

/-- What follows a zero. The character before a point stays, and so does the last one of all. -/
def skipZerosAfter (last : Char) : List Char → Option (List Char)
  | [] => some [last]
  | c :: r =>
    if c = '0' ∨ c = '_' then skipZerosAfter c r
    else if opensNumeral c then some (c :: r)
    else if c = '.' then some (last :: c :: r)
    else none

/-- Drops zeros in front and underscores among them. -/
def skipZeros : List Char → Option (List Char)
  | [] => none
  | c :: r =>
    if c = '0' then skipZerosAfter c r else if opensNumeral c then some (c :: r) else none

/-- Drops one plus sign, behind which no other sign stands. -/
def skipPlus : List Char → Option (List Char)
  | '+' :: '-' :: _ => none
  | '+' :: r => some r
  | cs => some cs

/-- Drops a point with zeros alone behind it. A point at the end stays. -/
def dropZeroFraction (cs : List Char) : List Char :=
  match cs.dropWhile (· != '.') with
  | _ :: z :: zs => if (z :: zs).all (· == '0') then cs.takeWhile (· != '.') else cs
  | _ => cs

def looseInt? (s : String) : Option Int := do
  let cs ← skipZeros (← skipPlus (trimNumber s.toList))
  plainInt? (← joinDigitGroups (dropZeroFraction cs))

end LedgerClient.Text
