import LedgerClient.Bytes.Basic
import LedgerClient.Text.Blank
import LedgerClient.Text.Quoted
import LedgerClient.Text.Numeral

/-!
Bytes as a numeral in base 58, over letters and digits without the look-alikes `0`, `O`, `I` and
`l`. Each leading zero byte is written as one `1`. A reader ignores blanks at the end.
-/

namespace LedgerClient.Base58

def alphabet : List Char :=
  "123456789ABCDEFGHJKLMNPQRSTUVWXYZabcdefghijkmnopqrstuvwxyz".toList

def digitChar (d : Nat) : Char := alphabet.getD d '1'

def digit? (c : Char) : Option Nat := alphabet.findIdx? (· == c)

/-- Why a text is not in base 58. -/
inductive Fault where
  /-- A run of `count` characters outside ASCII begins at `start` with `first`. -/
  | nonAscii (start count : Nat) (first : Char)
  | badChar (c : Char)

def Fault.message : Fault → String
  | .nonAscii start 1 first =>
    "'ascii' codec can't encode character '" ++ String.ofList (Text.escapeChar first)
      ++ "' in position " ++ Text.natText start ++ ": ordinal not in range(128)"
  | .nonAscii start count _ =>
    "'ascii' codec can't encode characters in position " ++ Text.natText start ++ "-"
      ++ Text.natText (start + count - 1) ++ ": ordinal not in range(128)"
  | .badChar c => "Invalid character " ++ Text.quoted (String.singleton c)

def encode (bs : Bytes) : String :=
  String.ofList ((bs.takeWhile (· == 0)).map (fun _ => '1')
    ++ (Positional.digits 58 (Bytes.toNatBE bs)).map digitChar)

/-- The first run of characters outside ASCII. -/
def nonAscii? (cs : List Char) : Option Fault :=
  let front := cs.takeWhile (·.toNat < 128)
  match cs.dropWhile (·.toNat < 128) with
  | [] => none
  | c :: r => some (.nonAscii front.length ((r.takeWhile (·.toNat ≥ 128)).length + 1) c)

def numeral : List Char → Except Fault (List Nat)
  | [] => .ok []
  | c :: r => match digit? c with
    | none => .error (.badChar c)
    | some d => (numeral r).map (d :: ·)

def decode (s : String) : Except Fault Bytes :=
  let cs := Text.trimEnd s.toList
  match nonAscii? cs with
  | some f => .error f
  | none => do
    let ones := cs.takeWhile (· == '1')
    let ds ← numeral (cs.dropWhile (· == '1'))
    return ones.map (fun _ => 0)
      ++ (Positional.digits 256 (Positional.value 58 ds)).map UInt8.ofNat

end LedgerClient.Base58
