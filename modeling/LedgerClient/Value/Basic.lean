import LedgerClient.Bytes.Basic
import LedgerClient.Decimal.Exact

/-!
Dynamic values: what JSON can hold, and byte strings. Members of an object keep the order in which
their keys first appeared, and a later member replaces an earlier one of the same key.
-/

namespace LedgerClient

inductive Value where
  | null
  | bool (b : Bool)
  | int (n : Int)
  | float (f : Float)
  | text (s : String)
  | bytes (b : Bytes)
  | list (xs : List Value)
  | object (members : List (String × Value))
  deriving Inhabited, Repr, BEq

abbrev Members := List (String × Value)

def Members.put (ms : Members) (k : String) (v : Value) : Members :=
  match ms with
  | [] => [(k, v)]
  | (k', v') :: r => if k' = k then (k, v) :: r else (k', v') :: Members.put r k v

def Members.get (ms : Members) (k : String) : Value := (ms.lookup k).getD .null

def Members.has (ms : Members) (k : String) : Bool := ms.any (·.1 == k)

def Members.ofPairs (ps : List (String × Value)) : Members :=
  ps.foldl (fun ms p => ms.put p.1 p.2) []

namespace Value

/-- The name of a value's kind, as messages give it. -/
def kindName : Value → String
  | null => "NoneType"
  | bool _ => "bool"
  | int _ => "int"
  | float _ => "float"
  | text _ => "str"
  | bytes _ => "bytes"
  | list _ => "list"
  | object _ => "dict"

def isNull : Value → Bool
  | null => true
  | _ => false

/-- Empty and zero values are false, all others true. -/
def isTruthy : Value → Bool
  | null => false
  | bool b => b
  | int n => n != 0
  | float f => f != Float.ofBits 0
  | text s => s != ""
  | bytes b => !b.isEmpty
  | list xs => !xs.isEmpty
  | object ms => !ms.isEmpty

/-- The first value unless it is false. -/
def orElse (v w : Value) : Value := if v.isTruthy then v else w

def text? : Value → Option String
  | text s => some s
  | _ => none

def members? : Value → Option Members
  | object ms => some ms
  | _ => none

/-- A whole number, or a truth value counted as one or zero. -/
def whole? : Value → Option Int
  | int n => some n
  | bool b => some (if b then 1 else 0)
  | _ => none

def isTrue : Value → Bool
  | bool true => true
  | _ => false

/-- A number as a whole one, floats included. -/
def number? : Value → Option Int
  | float f => Decimal.whole? f
  | v => v.whole?

/-- Whether two values are equal when numbers are compared by value. -/
def same : Value → Value → Bool
  | float f, float g => f == g
  | text s, text t => s == t
  | bytes a, bytes b => a == b
  | null, null => true
  | list xs, list ys => sameAll xs ys
  | object xs, object ys => xs.length == ys.length && sameMembers xs ys
  | v, w => match v.number?, w.number? with
    | some m, some n => m == n
    | _, _ => false
where
  sameAll : List Value → List Value → Bool
    | [], [] => true
    | x :: xs, y :: ys => x.same y && sameAll xs ys
    | _, _ => false
  sameMembers : Members → Members → Bool
    | [], _ => true
    | (k, v) :: r, ys => (match ys.lookup k with
        | some w => v.same w
        | none => false) && sameMembers r ys

end Value

end LedgerClient
