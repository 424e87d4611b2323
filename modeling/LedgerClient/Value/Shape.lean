import LedgerClient.Error.Basic
import LedgerClient.Text.Loose

/-!
Reading a value against the shape that is expected of it. Faults of different parts are collected,
each with the steps that lead to it; an error of another kind ends the reading at once.
-/

namespace LedgerClient

inductive Reading (α : Type) where
  | ok (a : α)
  | faulty (issues : List Issue)
  | stopped (e : Error)

namespace Reading

variable {α β : Type}

def map (f : α → β) : Reading α → Reading β
  | ok a => ok (f a)
  | faulty is => faulty is
  | stopped e => stopped e

/-- Both parts are read, the function's part first, and the faults of both are kept. -/
def seq : Reading (α → β) → Reading α → Reading β
  | stopped e, _ => stopped e
  | _, stopped e => stopped e
  | faulty is, faulty js => faulty (is ++ js)
  | faulty is, ok _ => faulty is
  | ok _, faulty js => faulty js
  | ok f, ok a => ok (f a)

instance : Applicative Reading where
  pure := ok
  map := Reading.map
  seq f x := Reading.seq f (x ())

def fault (m : Mismatch) : Reading α := faulty [⟨[], m⟩]

/-- The faults of a part lie one step further down in the whole. -/
def under (s : Step) : Reading α → Reading α
  | faulty is => faulty (is.map fun i => { i with path := s :: i.path })
  | r => r

def toExcept : Reading α → Except Error α
  | ok a => .ok a
  | faulty is => .error (.host (.mismatch is))
  | stopped e => .error e

end Reading

/-- A way to read a value as something of a type. -/
abbrev Shape (α : Type) := Value → Reading α

namespace Shape

variable {α : Type}

/-- Floats stand for whole numbers only below the limit of 64-bit ones. -/
def wholeFloat (f : Float) : Reading Int :=
  if f.isNaN || f.isInf then .fault .notFinite
  else match Decimal.whole? f with
    | none => .fault .fractionalInt
    | some n => if n.natAbs < Nat.pow 2 63 then .ok n else .fault .tooLarge

def int : Shape Int
  | .int n => .ok n
  | .bool b => .ok (if b then 1 else 0)
  | .float f => wholeFloat f
  | .text s => match Text.looseInt? s with
    | some n => .ok n
    | none => .fault .badInt
  | _ => .fault .notInt

def text : Shape String
  | .text s => .ok s
  | _ => .fault .notText

def truthWords : List (String × Bool) :=
  [("0", false), ("off", false), ("f", false), ("false", false), ("n", false), ("no", false),
   ("1", true), ("on", true), ("t", true), ("true", true), ("y", true), ("yes", true)]

def wholeBool (n : Int) : Reading Bool :=
  if n = 0 then .ok false else if n = 1 then .ok true else .fault .badBool

def bool : Shape Bool
  | .bool b => .ok b
  | .text s => match truthWords.lookup (s.map Char.toLower) with
    | some b => .ok b
    | none => .fault .badBool
  | .int n => if -Nat.pow 2 63 ≤ n ∧ n < Nat.pow 2 63 then wholeBool n else .fault .notBool
  | .float f => match wholeFloat f with
    | .ok n => wholeBool n
    | _ => .fault .notBool
  | _ => .fault .notBool

def members : Shape Members
  | .object ms => .ok ms
  | _ => .fault .notObject

def optional (s : Shape α) : Shape (Option α)
  | .null => .ok none
  | v => (s v).map some

def itemsFrom (s : Shape α) (i : Nat) : List Value → Reading (List α)
  | [] => .ok []
  | v :: r => ((s v).under (.index i)).map List.cons |>.seq (itemsFrom s (i + 1) r)

def list (s : Shape α) : Shape (List α)
  | .list vs => itemsFrom s 0 vs
  | _ => .fault .notList

/-- A member that has to be there. -/
def required (ms : Members) (name : String) (s : Shape α) : Reading α :=
  match ms.lookup name with
  | some v => (s v).under (.field name)
  | none => (Reading.fault .missing).under (.field name)

/-- A member that is taken as given if it is not there. -/
def orElse (ms : Members) (name : String) (dflt : α) (s : Shape α) : Reading α :=
  match ms.lookup name with
  | some v => (s v).under (.field name)
  | none => .ok dflt

/-- An object whose members are read each on its own. -/
def record (f : Members → Reading α) : Shape α
  | .object ms => f ms
  | _ => .fault .notModel

end Shape

end LedgerClient
