import LedgerClient.Amount.Basic

/-!
Amounts as text. A unit is always required, so a bare number is refused. Fractions are read of
whole tokens only and are cut, not rounded, to the smallest unit; five decimals are shown.
-/

namespace LedgerClient

open Text

/-- The text less the first suffix that it ends with. -/
def stripSuffix? (cs : List Char) : List String → Option (List Char)
  | [] => none
  | suffix :: r =>
    if suffix.toList.isSuffixOf cs then some (cs.take (cs.length - suffix.length))
    else stripSuffix? cs r

/-- A value that spells no whole number, for its characters or for the number of its digits. Of how
it is shown, only the front is kept. -/
def noNumeral (cs : List Char) (shown : String) : Error :=
  match digitExcess? (dropSign cs) with
  | some n => .badValue (unreadText n)
  | none =>
    .badValue ("invalid literal for int() with base 10: " ++ String.ofList (shown.toList.take 200))

/-- The number that a text of digits spells. Digits without a decimal place pass for digits but
spell no number. -/
def digitsValue (cs : List Char) : Except Error Nat :=
  match unsignedNumber? cs with
  | some n => .ok n
  | none => .error (noNumeral cs (quoted (String.ofList cs)))

/-- A number of digits alone between blanks. -/
def unsigned (kind : Kind) (given : String) (cs : List Char) : Except Error Nat :=
  let ds := trim cs
  if allDigits ds then digitsValue ds
  else .error (.plain kind ("Invalid number: " ++ given))

namespace Token

def perNear : Nat := Nat.pow 10 24

def perMilliNear : Nat := Nat.pow 10 21

def overflow (given : String) : Error := .plain .amount ("Amount overflow: " ++ given)

def ofTotal (given : String) (n : Nat) : Except Error Token :=
  match Amount.ofNat? n with
  | some a => .ok a
  | none => .error (overflow given)

/-- Whole tokens and a fraction, of which digits behind the twenty-fourth are dropped. -/
def ofParts (given : String) (whole fraction : List Char) : Except Error Token := do
  let places := fraction.take 24
  let n ← (if whole.isEmpty then .ok 0 else digitsValue whole)
  let k ← digitsValue (places ++ List.replicate (24 - places.length) '0')
  ofTotal given (n * perNear + k)

/-- Digits with a point in front of, among or behind them, or without one. -/
def ofDecimal (s : String) : Except Error Token :=
  let cs := trim s.toList
  let whole := cs.takeWhile (· != '.')
  let fraction := (cs.dropWhile (· != '.')).drop 1
  if allDigits (whole ++ fraction) then ofParts (String.ofList cs) whole fraction
  else .error (.plain .amount ("Invalid number: " ++ String.ofList cs))

def parse (s : String) : Except Error Token :=
  let cs := trim s.toList
  match stripSuffix? cs [" NEAR", " near"] with
  | some v => ofDecimal (String.ofList v)
  | none => match stripSuffix? cs [" milliNEAR", " mNEAR"] with
    | some v => do ofTotal s ((← unsigned .amount s v) * perMilliNear)
    | none => match stripSuffix? cs [" yoctoNEAR", " yocto"] with
      | some v => do ofTotal s (← unsigned .amount s v)
      | none =>
        let t := String.ofList cs
        if !cs.isEmpty && cs.all fun c => isDigit c || c == '.' then
          .error (.plain .amount ("Ambiguous amount " ++ quoted t ++ ": add a unit such as '" ++ t
            ++ " NEAR' or '" ++ t ++ " yocto'"))
        else .error (.plain .amount ("Invalid amount format: " ++ s))

/-- Tokens from text with a unit, or from a number of the smallest unit. -/
def ofValue : Value → Except Error Token
  | .text s => parse s
  | v => Amount.ofWhole v

def wholeNear (a : Token) : Nat := a.value / perNear

/-- The float nearest to the number of whole tokens. -/
def nearFloat (a : Token) : Float := Float.ofScientific a.value true 24

def display (a : Token) : String :=
  let whole := natText (a.value / perNear)
  let rest := a.value % perNear
  if rest = 0 then whole ++ " NEAR"
  else
    let ds := (((paddedDigits 24 rest).reverse.dropWhile (· == '0')).reverse).take 5
    whole ++ "." ++ String.ofList ds ++ " NEAR"

end Token

namespace Gas

def perTera : Nat := Nat.pow 10 12

def perGiga : Nat := Nat.pow 10 9

/-- What a call is given unless it says otherwise. -/
def standard : Gas := ⟨30 * perTera, by decide⟩

def maximum : Gas := ⟨1000 * perTera, by decide⟩

def scales : List (List String × Nat) :=
  [([" Tgas", " tgas", " TGas"], perTera), ([" Ggas", " ggas", " GGas"], perGiga), ([" gas"], 1)]

/-- The number in front of the first unit that the text ends with, and that unit. -/
def scaled? (cs : List Char) : List (List String × Nat) → Option (List Char × Nat)
  | [] => none
  | (suffixes, unit) :: r => match stripSuffix? cs suffixes with
    | some v => some (v, unit)
    | none => scaled? cs r

def ofTotal (given : String) (n : Nat) : Except Error Gas :=
  match Amount.ofNat? n with
  | some a => .ok a
  | none => .error (.plain .gas ("Gas overflow: " ++ given))

def parse (s : String) : Except Error Gas :=
  let cs := trim s.toList
  match scaled? cs scales with
  | some (v, unit) => do ofTotal s ((← unsigned .gas s v) * unit)
  | none =>
    let t := String.ofList cs
    if allDigits cs then
      .error (.plain .gas ("Ambiguous gas " ++ quoted t ++ ": add a unit such as '" ++ t
        ++ " Tgas' or '" ++ t ++ " gas'"))
    else .error (.plain .gas ("Invalid gas format: " ++ s))

def ofValue : Value → Except Error Gas
  | .text s => parse s
  | v => Amount.ofWhole v

def wholeTera (a : Gas) : Nat := a.value / perTera

def display (a : Gas) : String :=
  if 0 < a.value / perTera ∧ a.value % perTera = 0 then natText (a.value / perTera) ++ " Tgas"
  else natText a.value ++ " gas"

end Gas

end LedgerClient
