import LedgerClient.Bytes.Basic
import LedgerClient.Text.Quoted
import LedgerClient.Text.Blank

/-!
Bytes as pairs of hexadecimal digits.
-/

namespace LedgerClient.Hex

def encode (bs : Bytes) : String :=
  String.ofList (bs.flatMap fun b => Text.hexDigits 2 b.toNat)

def pair? (a b : Char) : Option UInt8 := do
  let x ← Text.hexDigit? a
  let y ← Text.hexDigit? b
  return UInt8.ofNat (x * 16 + y)

/-- Reads digit pairs; blanks of ASCII may stand before, between and after the pairs. -/
def decodeChars : List Char → Option Bytes
  | [] => some []
  | [c] => if Text.isAsciiBlank c then some [] else none
  | a :: b :: r =>
    if Text.isAsciiBlank a then decodeChars (b :: r)
    else do
      let x ← pair? a b
      let xs ← decodeChars r
      return x :: xs

def decode? (s : String) : Option Bytes := decodeChars s.toList

end LedgerClient.Hex
