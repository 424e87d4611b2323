import LedgerClient.Error.Basic

/-!
Amounts of tokens and of gas: natural numbers up to the greatest that their wire form can hold.
Checked operations give nothing where the result is too large or below zero, saturating ones the
nearest bound.
-/

namespace LedgerClient

inductive Measure where
  | token
  | gas
  deriving DecidableEq, Repr

namespace Measure

def name : Measure → String
  | token => "NearToken"
  | gas => "Gas"

/-- The greatest amount. -/
def limit : Measure → Nat
  | token => Nat.pow 2 128 - 1
  | gas => Nat.pow 2 64 - 1

end Measure

structure Amount (m : Measure) where
  value : Nat
  le_limit : value ≤ m.limit
  deriving DecidableEq, Repr

/-- Tokens, in the smallest unit. -/
abbrev Token := Amount .token

abbrev Gas := Amount .gas

namespace Amount

variable {m : Measure}

theorem ext {a b : Amount m} (h : a.value = b.value) : a = b := by
  cases a; cases b; simp_all

def ofNat? (n : Nat) : Option (Amount m) := if h : n ≤ m.limit then some ⟨n, h⟩ else none

def zero : Amount m := ⟨0, Nat.zero_le _⟩

def ofInt (n : Int) : Except Error (Amount m) :=
  let fault := Error.host (.outOfRange (m.name ++ " out of range: " ++ Text.intText n))
  if n < 0 then .error fault
  else match ofNat? n.toNat with
    | some a => .ok a
    | none => .error fault

/-- A whole number as an amount; a truth value is none. -/
def ofWhole : Value → Except Error (Amount m)
  | .int n => ofInt n
  | v => .error (.host (.wrongKind (some (m.name ++ " requires an int, got " ++ v.kindName))))

/-- A multiple of a unit, given by a dynamic number of units. -/
def ofUnits (unit : Nat) : Value → Except Error (Amount m)
  | .int n => ofInt (n * unit)
  | .bool b => ofInt (if b then unit else 0)
  | .float f => ofWhole (.float f)
  | .text s => repeated (.text s)
  | .bytes bs => repeated (.bytes bs)
  | .list xs => repeated (.list xs)
  | _ => .error .wrongKind
where
  /-- So many copies of a text or a list are no number, or more than there can be. -/
  repeated (v : Value) : Except Error (Amount m) :=
    if unit < Error.indexLimit then ofWhole v else .error .noIndex

def isZero (a : Amount m) : Bool := a.value == 0

def checkedAdd (a : Amount m) (n : Int) : Except Error (Option (Amount m)) :=
  if a.value + n ≤ m.limit then (ofInt (a.value + n)).map some else .ok none

def checkedSub (a : Amount m) (n : Int) : Except Error (Option (Amount m)) :=
  if 0 ≤ a.value - n then (ofInt (a.value - n)).map some else .ok none

def saturatingAdd (a : Amount m) (n : Int) : Except Error (Amount m) :=
  ofInt (min (a.value + n) m.limit)

def saturatingSub (a : Amount m) (n : Int) : Except Error (Amount m) := ofInt (max (a.value - n) 0)

def add (a b : Amount m) : Except Error (Amount m) :=
  match ofNat? (a.value + b.value) with
  | some c => .ok c
  | none => .error (.host (.outOfRange (m.name ++ " addition overflow")))

def sub (a b : Amount m) : Except Error (Amount m) :=
  if a.value < b.value then .error (.host (.outOfRange (m.name ++ " subtraction underflow")))
  else .ok ⟨a.value - b.value, Nat.le_trans (Nat.sub_le _ _) a.le_limit⟩

/-- The amount as an expression. -/
def repr (a : Amount m) : String := m.name ++ "(" ++ Text.natText a.value ++ ")"

end Amount

end LedgerClient
