import LedgerClient.Amount.Text
import LedgerClient.Text.Numeral

/-!
Operators between amounts and plain values. Two amounts of one measure are added and compared as
numbers; amounts of different measures are never equal and neither added nor ordered.
-/

namespace LedgerClient

/-- The characters of bytes in ASCII, up to the first byte that is none. -/
def Bytes.asciiFront (bs : Bytes) : List Char :=
  (bs.takeWhile (· < 128)).map fun b => Char.ofNat b.toNat

/-- The whole number that bytes spell in ASCII. -/
def Bytes.wholeNumber? (bs : Bytes) : Option Int :=
  if bs.all (· < 128) then Text.wholeNumber? (String.ofList bs.asciiFront) else none

/-- The whole number that a value converts to: text and bytes are read, and a fraction is cut. -/
def Value.toWhole : Value → Except Error Int
  | .text s => match Text.wholeNumber? s with
    | some n => .ok n
    | none => .error (noNumeral s.toList (Text.quoted s))
  | .bytes bs => match Bytes.wholeNumber? bs with
    | some n => .ok n
    | none => .error (noNumeral bs.asciiFront (Value.quotedBytes (bs.take 200)))
  | .float f =>
    if f.isNaN then .error (.badValue "cannot convert float NaN to integer")
    else if f.isInf then .error (.host (.outOfRange "cannot convert float infinity to integer"))
    else .ok (Decimal.truncate f)
  | v => match v.whole? with
    | some n => .ok n
    | none => .error .wrongKind

inductive Operand where
  | token (a : Token)
  | gas (a : Gas)
  | plain (v : Value)

namespace Operand

def toWhole : Operand → Except Error Int
  | token a => .ok a.value
  | gas a => .ok a.value
  | plain v => v.toWhole

/-- An amount of another one's number, or of a plain whole number. -/
def convert (m : Measure) : Operand → Except Error (Amount m)
  | token a => Amount.ofInt a.value
  | gas a => Amount.ofInt a.value
  | plain v => Amount.ofWhole v

def checkedAdd (a b : Operand) : Except Error (Option Operand) :=
  match a with
  | token a => do return (← a.checkedAdd (← b.toWhole)).map .token
  | gas a => do return (← a.checkedAdd (← b.toWhole)).map .gas
  | plain _ => .error (.host .noMember)

def checkedSub (a b : Operand) : Except Error (Option Operand) :=
  match a with
  | token a => do return (← a.checkedSub (← b.toWhole)).map .token
  | gas a => do return (← a.checkedSub (← b.toWhole)).map .gas
  | plain _ => .error (.host .noMember)

def saturatingAdd (a b : Operand) : Except Error Operand :=
  match a with
  | token a => do return .token (← a.saturatingAdd (← b.toWhole))
  | gas a => do return .gas (← a.saturatingAdd (← b.toWhole))
  | plain _ => .error (.host .noMember)

def saturatingSub (a b : Operand) : Except Error Operand :=
  match a with
  | token a => do return .token (← a.saturatingSub (← b.toWhole))
  | gas a => do return .gas (← a.saturatingSub (← b.toWhole))
  | plain _ => .error (.host .noMember)

def add (a b : Operand) : Except Error Operand :=
  match a, b with
  | token a, token b => (a.add b).map .token
  | gas a, gas b => (a.add b).map .gas
  | _, _ => .error .wrongKind

def sub (a b : Operand) : Except Error Operand :=
  match a, b with
  | token a, token b => (a.sub b).map .token
  | gas a, gas b => (a.sub b).map .gas
  | _, _ => .error .wrongKind

def same (a b : Operand) : Bool :=
  match a, b with
  | token a, token b => a == b
  | gas a, gas b => a == b
  | plain v, plain w => v.same w
  | _, _ => false

/-- The order of two amounts of one measure. -/
def compare (a b : Operand) : Except Error Ordering :=
  match a, b with
  | token a, token b => .ok (Ord.compare a.value b.value)
  | gas a, gas b => .ok (Ord.compare a.value b.value)
  | _, _ => .error .wrongKind

end Operand

end LedgerClient
