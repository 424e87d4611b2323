import LedgerClient.Value.Literal

/-!
JSON text of a value. A byte string has none.
-/

namespace LedgerClient.Json

/-- What stands between elements and behind keys, whether keys are sorted, and whether text is
kept within ASCII. -/
structure Style where
  between : String
  afterKey : String
  sorted : Bool
  ascii : Bool

def compact : Style := ⟨",", ":", false, true⟩

def spacedSorted : Style := ⟨", ", ": ", true, true⟩

/-- Compact, with text outside ASCII kept as it is. -/
def compactUnicode : Style := ⟨",", ":", false, false⟩

def unicodeEscape (n : Nat) : List Char := ['\\', 'u'] ++ Text.hexDigits 4 n

def escapeChar (ascii : Bool) (c : Char) : List Char :=
  let n := c.toNat
  if c = '"' ∨ c = '\\' then ['\\', c]
  else if c = '\n' then ['\\', 'n']
  else if c = '\r' then ['\\', 'r']
  else if c = '\t' then ['\\', 't']
  else if n = 8 then ['\\', 'b']
  else if n = 12 then ['\\', 'f']
  else if n < 32 then unicodeEscape n
  else if !ascii || n < 127 then [c]
  else if n < 0x10000 then unicodeEscape n
  else
    let m := n - 0x10000
    unicodeEscape (0xD800 + m / 0x400) ++ unicodeEscape (0xDC00 + m % 0x400)

def printText (st : Style) (s : String) : String :=
  String.ofList ('"' :: s.toList.flatMap (escapeChar st.ascii) ++ ['"'])

def words : Value.FloatWords := ⟨"NaN", "Infinity", "-Infinity"⟩

/-- Members in the order in which they are written. -/
def Style.arrange (st : Style) (es : List (String × String)) : List (String × String) :=
  if st.sorted then es.mergeSort fun a b => !decide (b.1 < a.1) else es

def print? (st : Style) : Value → Option String
  | .null => some "null"
  | .bool b => some (if b then "true" else "false")
  | .int n => some (Text.intText n)
  | .float f => some (Value.floatText words f)
  | .text s => some (printText st s)
  | .bytes _ => none
  | .list xs => do
    let items ← items xs
    return "[" ++ st.between.intercalate items ++ "]"
  | .object ms => do
    let es ← entries ms
    let parts := (st.arrange es).map fun e => printText st e.1 ++ st.afterKey ++ e.2
    return "\x7b" ++ st.between.intercalate parts ++ "\x7d"
where
  items : List Value → Option (List String)
    | [] => some []
    | x :: xs => do
      let s ← print? st x
      let r ← items xs
      return s :: r
  entries : Members → Option (List (String × String))
    | [] => some []
    | (k, v) :: r => do
      let s ← print? st v
      let es ← entries r
      return (k, s) :: es

end LedgerClient.Json
