import LedgerClient.Bytes.Basic

/-!
Bytes in groups of four characters that stand for six bits each, padded with `=`. `decode` skips
what is no data character; `decodeExact` accepts whole padded groups and nothing else.
-/

namespace LedgerClient.Base64

def alphabet : List Char :=
  "ABCDEFGHIJKLMNOPQRSTUVWXYZabcdefghijklmnopqrstuvwxyz0123456789+/".toList

def sextetChar (n : Nat) : Char := alphabet.getD n 'A'

def sextet? (c : Char) : Option Nat :=
  let n := c.toNat
  if 65 ≤ n ∧ n ≤ 90 then some (n - 65)
  else if 97 ≤ n ∧ n ≤ 122 then some (n - 71)
  else if 48 ≤ n ∧ n ≤ 57 then some (n + 4)
  else if n = 43 then some 62
  else if n = 47 then some 63
  else none

def encodeChars : Bytes → List Char
  | [] => []
  | [a] =>
    let n := a.toNat * 16
    [sextetChar (n / 64), sextetChar (n % 64), '=', '=']
  | [a, b] =>
    let n := (a.toNat * 256 + b.toNat) * 4
    [sextetChar (n / 4096), sextetChar (n / 64 % 64), sextetChar (n % 64), '=']
  | a :: b :: c :: r =>
    let n := (a.toNat * 256 + b.toNat) * 256 + c.toNat
    sextetChar (n / 262144) :: sextetChar (n / 4096 % 64) :: sextetChar (n / 64 % 64)
      :: sextetChar (n % 64) :: encodeChars r

def encode (bs : Bytes) : String := String.ofList (encodeChars bs)

inductive Fault where
  | nonAscii
  /-- The text ends inside a group. -/
  | incomplete

/-- Reads on with the characters of an unfinished group, the number of `=` seen in it, and the
bits not yet put out. -/
def decodeFrom (group pads bits : Nat) : List Char → Except Fault Bytes
  | [] => if group = 0 then .ok [] else .error .incomplete
  | '=' :: r =>
    if group < 2 then decodeFrom group pads bits r
    else if 4 ≤ group + pads + 1 then .ok []
    else decodeFrom group (pads + 1) bits r
  | c :: r => match sextet? c with
    | none => decodeFrom group pads bits r
    | some v => match group with
      | 0 => decodeFrom 1 0 v r
      | 1 => (decodeFrom 2 0 (v % 16) r).map (UInt8.ofNat (bits * 4 + v / 16) :: ·)
      | 2 => (decodeFrom 3 0 (v % 4) r).map (UInt8.ofNat (bits * 16 + v / 4) :: ·)
      | _ => (decodeFrom 0 0 0 r).map (UInt8.ofNat (bits * 64 + v) :: ·)

def decode (s : String) : Except Fault Bytes :=
  if s.toList.all (·.toNat < 128) then decodeFrom 0 0 0 s.toList else .error .nonAscii

/-- One padded group at the end of the text. -/
def lastGroup? (a b c d : Char) : Option Bytes := do
  let x ← sextet? a
  let y ← sextet? b
  if c = '=' ∧ d = '=' then
    return [UInt8.ofNat (x * 4 + y / 16)]
  let z ← sextet? c
  if d = '=' then
    return [UInt8.ofNat (x * 4 + y / 16), UInt8.ofNat (y % 16 * 16 + z / 4)]
  let w ← sextet? d
  return [UInt8.ofNat (x * 4 + y / 16), UInt8.ofNat (y % 16 * 16 + z / 4),
    UInt8.ofNat (z % 4 * 64 + w)]

def decodeExactChars : List Char → Option Bytes
  | [] => some []
  | [a, b, c, d] => lastGroup? a b c d
  | a :: b :: c :: d :: r => do
    let x ← sextet? a
    let y ← sextet? b
    let z ← sextet? c
    let w ← sextet? d
    let rest ← decodeExactChars r
    return UInt8.ofNat (x * 4 + y / 16) :: UInt8.ofNat (y % 16 * 16 + z / 4)
      :: UInt8.ofNat (z % 4 * 64 + w) :: rest
  | _ => none

def decodeExact? (s : String) : Option Bytes := decodeExactChars s.toList

end LedgerClient.Base64
