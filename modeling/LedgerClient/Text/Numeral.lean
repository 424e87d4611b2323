import LedgerClient.Text.Blank

/-!
Decimal numbers in the digits of any script. `isDigit` also holds of digits without a decimal
place, such as superscripts, so a text of digits need not be a number; nor is it read as one when
it has too many of them.
-/

namespace LedgerClient.Text

/-- The zeros of the decimal scripts; each is followed by the other nine digits in order. -/
def decimalZeros : List Nat :=
  [0x30, 0x660, 0x6F0, 0x7C0, 0x966, 0x9E6, 0xA66, 0xAE6, 0xB66, 0xBE6, 0xC66, 0xCE6, 0xD66,
   0xDE6, 0xE50, 0xED0, 0xF20, 0x1040, 0x1090, 0x17E0, 0x1810, 0x1946, 0x19D0, 0x1A80, 0x1A90,
   0x1B50, 0x1BB0, 0x1C40, 0x1C50, 0xA620, 0xA8D0, 0xA900, 0xA9D0, 0xA9F0, 0xAA50, 0xABF0,
   0xFF10, 0x104A0, 0x10D30, 0x11066, 0x110F0, 0x11136, 0x111D0, 0x112F0, 0x11450, 0x114D0,
   0x11650, 0x116C0, 0x11730, 0x118E0, 0x11950, 0x11C50, 0x11D50, 0x11DA0, 0x16A60, 0x16AC0,
   0x16B50, 0x1D7CE, 0x1D7D8, 0x1D7E2, 0x1D7EC, 0x1D7F6, 0x1E140, 0x1E2F0, 0x1E950, 0x1FBF0]

/-- Digits that stand for a value but in no decimal place. -/
def loneDigitRanges : List (Nat × Nat) :=
  [(0xB2, 0xB3), (0xB9, 0xB9), (0x1369, 0x1371), (0x19DA, 0x19DA), (0x2070, 0x2070),
   (0x2074, 0x2079), (0x2080, 0x2089), (0x2460, 0x2468), (0x2474, 0x247C), (0x2488, 0x2490),
   (0x24EA, 0x24EA), (0x24F5, 0x24FD), (0x24FF, 0x24FF), (0x2776, 0x277E), (0x2780, 0x2788),
   (0x278A, 0x2792), (0x10A40, 0x10A43), (0x10E60, 0x10E68), (0x11052, 0x1105A),
   (0x1F100, 0x1F10A)]

def decimalDigit? (c : Char) : Option Nat :=
  (decimalZeros.find? fun z => z ≤ c.toNat && c.toNat < z + 10).map (c.toNat - ·)

def isDigit (c : Char) : Bool := (decimalDigit? c).isSome || inRanges loneDigitRanges c.toNat

def allDigits (cs : List Char) : Bool := !cs.isEmpty && cs.all isDigit

def decimalValueFrom (acc : Nat) : List Char → Option Nat
  | [] => some acc
  | c :: r => match decimalDigit? c with
    | some d => decimalValueFrom (acc * 10 + d) r
    | none => none

/-- The number that decimal digits alone spell. -/
def decimalValue? : List Char → Option Nat
  | [] => none
  | c :: r => decimalValueFrom 0 (c :: r)

/-- Drops single underscores that stand between digits; `none` where one stands elsewhere. -/
def joinDigitGroups : List Char → Option (List Char)
  | [] => some []
  | '_' :: _ => none
  | [c] => some [c]
  | c :: '_' :: d :: r =>
    if d = '_' then none else (joinDigitGroups (d :: r)).map (c :: ·)
  | c :: d :: r => (joinDigitGroups (d :: r)).map (c :: ·)

/-- A run of more digits is not read as a number, nor written for one. -/
def digitLimit : Nat := 4300

/-- Decimal digits with single underscores between them. -/
def unsignedNumber? (cs : List Char) : Option Nat := do
  let ds ← joinDigitGroups cs
  if digitLimit < ds.length then none else decimalValue? ds

/-- The number of digits that a text starts with, if that is more than are read. -/
def digitExcess? (cs : List Char) : Option Nat := do
  let ds ← joinDigitGroups (cs.takeWhile fun c => c == '_' || (decimalDigit? c).isSome)
  if digitLimit < ds.length then some ds.length else none

/-- An optional sign, then what `digits` accepts. -/
def signed? (digits : List Char → Option Nat) : List Char → Option Int
  | '-' :: r => (digits r).map fun n => -(n : Int)
  | '+' :: r => (digits r).map fun n => (n : Int)
  | cs => (digits cs).map fun n => (n : Int)

/-- Blanks around a number, the separators of records and fields not among them. -/
def isNumberBlank (c : Char) : Bool := isBlank c && !(0x1C ≤ c.toNat && c.toNat ≤ 0x1F)

def trimNumber (cs : List Char) : List Char :=
  ((cs.dropWhile isNumberBlank).reverse.dropWhile isNumberBlank).reverse

/-- Blanks around, an optional sign, and decimal digits with single underscores between them. -/
def wholeNumber? (s : String) : Option Int := signed? unsignedNumber? (trimNumber s.toList)

/-- What stands behind blanks and a sign. -/
def dropSign (cs : List Char) : List Char :=
  match trimNumber cs with
  | '-' :: r | '+' :: r => r
  | r => r

/-- The decimal digits of a natural number. -/
def natText (n : Nat) : String := String.ofList (Nat.toDigits 10 n)

def intText : Int → String
  | .ofNat n => natText n
  | .negSucc n => "-" ++ natText (n + 1)

/-- A number with more digits than are written. -/
def isOverlong (n : Int) : Bool := digitLimit < (Nat.toDigits 10 n.natAbs).length

/-- What is said of more digits than the limit. -/
def excessText (count : String) : String :=
  "Exceeds the limit (" ++ natText digitLimit ++ " digits) for integer string conversion" ++ count
    ++ "; use sys.set_int_max_str_digits() to increase the limit"

/-- So many digits are not read. -/
def unreadText (count : Nat) : String := excessText (": value has " ++ natText count ++ " digits")

/-- An overlong number is not written. -/
def unwrittenText : String := excessText ""

/-- Decimal digits, padded with zeros in front to a width. -/
def paddedDigits (width n : Nat) : List Char :=
  let ds := Nat.toDigits 10 n
  List.replicate (width - ds.length) '0' ++ ds

end LedgerClient.Text
