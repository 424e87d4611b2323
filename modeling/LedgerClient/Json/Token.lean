import LedgerClient.Value.Basic
import LedgerClient.Text.Blank

/-!
Lexemes of JSON text. The lexer looks at one character at a time; a word or number ends before the
first character that cannot belong to one.
-/

namespace LedgerClient.Json

inductive Token where
  | openList
  | closeList
  | openObject
  | closeObject
  | comma
  | colon
  | text (s : String)
  /-- A word or a number. -/
  | atom (v : Value)

/-- A character that can belong to a word or a number. -/
def isAtomChar (c : Char) : Bool := c.isAlphanum || c == '-' || c == '+' || c == '.'

/-- Digits of ASCII at the front, and what follows them. -/
def takeDigits (cs : List Char) : List Char × List Char :=
  (cs.takeWhile Char.isDigit, cs.dropWhile Char.isDigit)

def digitsValue (ds : List Char) : Nat := ds.foldl (fun n c => n * 10 + (c.toNat - 48)) 0

/-- What follows the whole part of a number: a fraction, an exponent, or neither. -/
def fraction? (negative : Bool) (wholePart : List Char) : List Char → Option Value
  | '.' :: r =>
    let (ds, r) := takeDigits r
    if ds.isEmpty then none
    else match r with
      | [] => some (.float (Decimal.nearest negative (wholePart ++ ds) (-(ds.length : Int))))
      | e :: r => if e = 'e' ∨ e = 'E' then
          (exponent? r).map fun x => .float
            (Decimal.nearest negative (wholePart ++ ds) (x - (ds.length : Int)))
        else none
  | e :: r => if e = 'e' ∨ e = 'E' then
      (exponent? r).map fun x => .float (Decimal.nearest negative wholePart x)
    else none
  | [] =>
    let n : Int := digitsValue wholePart
    some (.int (if negative then -n else n))
where
  exponent? : List Char → Option Int
    | '-' :: r => (unsigned? r).map fun n => -(n : Int)
    | '+' :: r => (unsigned? r).map fun n => (n : Int)
    | r => (unsigned? r).map fun n => (n : Int)
  unsigned? (r : List Char) : Option Nat :=
    if r.isEmpty || !r.all Char.isDigit then none else some (digitsValue r)

def unsigned? (negative : Bool) (cs : List Char) : Option Value :=
  let (ds, r) := takeDigits cs
  match ds with
  | [] => none
  | '0' :: _ :: _ => none
  | ds => fraction? negative ds r

def number? : List Char → Option Value
  | '-' :: r => unsigned? true r
  | cs => unsigned? false cs

def nanValue : Value := .float (Float.ofBits 0x7FF8000000000000)

def infinityValue (negative : Bool) : Value :=
  .float (Float.ofBits (if negative then 0xFFF0000000000000 else 0x7FF0000000000000))

def atom? (cs : List Char) : Option Value :=
  if cs = "null".toList then some .null
  else if cs = "true".toList then some (.bool true)
  else if cs = "false".toList then some (.bool false)
  else if cs = "NaN".toList then some nanValue
  else if cs = "Infinity".toList then some (infinityValue false)
  else if cs = "-Infinity".toList then some (infinityValue true)
  else number? cs

/-- Where the lexer stands. Characters read are kept last first. -/
inductive Lexer where
  | between
  | inAtom (read : List Char)
  | inText (read : List Char)
  | escape (read : List Char)
  /-- Inside a four-digit escape; `high` is a leading surrogate waiting for its other half. -/
  | unicode (read : List Char) (digits value : Nat) (high : Option Nat)
  /-- After a leading surrogate. -/
  | afterHigh (read : List Char) (high : Nat)
  | afterHighEscape (read : List Char) (high : Nat)

def punctuation? : Char → Option Token
  | '[' => some .openList
  | ']' => some .closeList
  | '{' => some .openObject
  | '}' => some .closeObject
  | ',' => some .comma
  | ':' => some .colon
  | _ => none

def isJsonBlank (c : Char) : Bool := c == ' ' || c == '\t' || c == '\n' || c == '\r'

def fromBetween (c : Char) : Option (Lexer × List Token) :=
  if isJsonBlank c then some (.between, [])
  else if c = '"' then some (.inText [], [])
  else match punctuation? c with
    | some t => some (.between, [t])
    | none => if isAtomChar c then some (.inAtom [c], []) else none

def fromText (read : List Char) (c : Char) : Option (Lexer × List Token) :=
  if c = '"' then some (.between, [.text (String.ofList read.reverse)])
  else if c = '\\' then some (.escape read, [])
  else if c.toNat < 32 then none
  else some (.inText (c :: read), [])

def escaped? : Char → Option Char
  | '"' => some '"'
  | '\\' => some '\\'
  | '/' => some '/'
  | 'b' => some '\x08'
  | 'f' => some '\x0c'
  | 'n' => some '\n'
  | 'r' => some '\r'
  | 't' => some '\t'
  | _ => none

/-- Ends a four-digit escape with the given value. Half a surrogate pair is no character: `half`
stands for it, or it is refused. -/
def endUnicode (half : Option Char) (read : List Char) (n : Nat) : Option Nat → Option Lexer
  | some h =>
    if 0xDC00 ≤ n ∧ n ≤ 0xDFFF then
      some (.inText (Char.ofNat (0x10000 + (h - 0xD800) * 0x400 + (n - 0xDC00)) :: read))
    else if 0xD800 ≤ n ∧ n ≤ 0xDBFF then half.map fun x => .afterHigh (x :: read) n
    else half.map fun x => .inText (Char.ofNat n :: x :: read)
  | none =>
    if 0xD800 ≤ n ∧ n ≤ 0xDBFF then some (.afterHigh read n)
    else if 0xDC00 ≤ n ∧ n ≤ 0xDFFF then half.map fun x => .inText (x :: read)
    else some (.inText (Char.ofNat n :: read))

def Lexer.step (half : Option Char) : Lexer → Char → Option (Lexer × List Token)
  | .between, c => fromBetween c
  | .inAtom read, c =>
    if isAtomChar c then some (.inAtom (c :: read), [])
    else do
      let v ← atom? read.reverse
      let (l, ts) ← fromBetween c
      return (l, .atom v :: ts)
  | .inText read, c => fromText read c
  | .escape read, c =>
    if c = 'u' then some (.unicode read 0 0 none, [])
    else (escaped? c).map fun d => (.inText (d :: read), [])
  | .unicode read digits value high, c => do
    let n := value * 16 + (← Text.hexDigit? c)
    if digits = 3 then return (← endUnicode half read n high, [])
    else return (.unicode read (digits + 1) n high, [])
  | .afterHigh read high, c =>
    if c = '\\' then some (.afterHighEscape read high, [])
    else do fromText ((← half) :: read) c
  | .afterHighEscape read high, c =>
    if c = 'u' then some (.unicode read 0 0 (some high), [])
    else do return (.inText ((← escaped? c) :: (← half) :: read), [])

def Lexer.finish : Lexer → Option (List Token)
  | .between => some []
  | .inAtom read => (atom? read.reverse).map fun v => [.atom v]
  | _ => none

def Lexer.run (half : Option Char) : Lexer → List Char → Option (List Token)
  | l, [] => l.finish
  | l, c :: cs => do
    let (l', ts) ← l.step half c
    let rest ← Lexer.run half l' cs
    return ts ++ rest

def tokens? (half : Option Char) (s : String) : Option (List Token) :=
  Lexer.between.run half s.toList

end LedgerClient.Json
