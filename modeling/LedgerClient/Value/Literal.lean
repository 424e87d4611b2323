import LedgerClient.Value.Basic
import LedgerClient.Decimal.Shortest
import LedgerClient.Text.Quoted

/-!
Values as they appear in messages: quoted text, `None`, `True` and `False`, brackets and braces.
A text on its own is shown without quotes.
-/

namespace LedgerClient.Value

/-- Texts of the floats that are not finite, in one vocabulary. -/
structure FloatWords where
  nan : String
  infinity : String
  negativeInfinity : String

def floatText (words : FloatWords) (f : Float) : String :=
  match Decimal.finiteText? f with
  | some s => s
  | none => if f.isNaN then words.nan else if f < Float.ofBits 0 then words.negativeInfinity
    else words.infinity

def literalWords : FloatWords := ⟨"nan", "inf", "-inf"⟩

def quotedByte (quote : Char) (b : UInt8) : List Char :=
  let c := Char.ofNat b.toNat
  if c = quote ∨ c = '\\' ∨ c = '\n' ∨ c = '\r' ∨ c = '\t' then Text.quoteChar quote c
  else if 32 ≤ b.toNat ∧ b.toNat < 127 then [c]
  else Text.escapeChar c

def quotedBytes (bs : Bytes) : String :=
  let q := Text.quoteFor (bs.map fun b => Char.ofNat b.toNat)
  String.ofList ('b' :: q :: bs.flatMap (quotedByte q) ++ [q])

def literal : Value → String
  | null => "None"
  | bool b => if b then "True" else "False"
  | int n => Text.intText n
  | float f => floatText literalWords f
  | text s => Text.quoted s
  | bytes b => quotedBytes b
  | list xs => "[" ++ ", ".intercalate (items xs) ++ "]"
  | object ms => "\x7b" ++ ", ".intercalate (entries ms) ++ "\x7d"
where
  items : List Value → List String
    | [] => []
    | x :: xs => x.literal :: items xs
  entries : Members → List String
    | [] => []
    | (k, v) :: r => (Text.quoted k ++ ": " ++ v.literal) :: entries r

def display : Value → String
  | text s => s
  | v => v.literal

end LedgerClient.Value
