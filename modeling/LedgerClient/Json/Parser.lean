import LedgerClient.Json.Token

/-!
From lexemes to a value: a machine with a stack of open lists and objects, which takes each lexeme
once.
-/

namespace LedgerClient.Json

/-- An open list or object; what has been read of it is kept last first. -/
inductive Frame where
  | list (done : List Value)
  | object (done : List (String × Value)) (key : String)

inductive State where
  | wantValue (fs : List Frame)
  /-- Behind an opening bracket, where a value or the closing one stands. -/
  | wantElement (fs : List Frame)
  /-- Behind an opening brace, where a key or the closing one stands. -/
  | wantMember (fs : List Frame)
  | wantKey (fs : List Frame) (done : List (String × Value))
  | wantColon (fs : List Frame) (done : List (String × Value)) (key : String)
  | after (fs : List Frame) (v : Value)

def beginValue (fs : List Frame) : Token → Option State
  | .atom v => some (.after fs v)
  | .text s => some (.after fs (.text s))
  | .openList => some (.wantElement fs)
  | .openObject => some (.wantMember fs)
  | _ => none

def State.step : State → Token → Option State
  | .wantValue fs, t => beginValue fs t
  | .wantElement fs, .closeList => some (.after fs (.list []))
  | .wantElement fs, t => beginValue (.list [] :: fs) t
  | .wantMember fs, .closeObject => some (.after fs (.object []))
  | .wantMember fs, .text k => some (.wantColon fs [] k)
  | .wantMember _, _ => none
  | .wantKey fs done, .text k => some (.wantColon fs done k)
  | .wantKey _ _, _ => none
  | .wantColon fs done k, .colon => some (.wantValue (.object done k :: fs))
  | .wantColon _ _ _, _ => none
  | .after (.list done :: fs) v, .comma => some (.wantValue (.list (v :: done) :: fs))
  | .after (.list done :: fs) v, .closeList => some (.after fs (.list (v :: done).reverse))
  | .after (.object done k :: fs) v, .comma => some (.wantKey fs ((k, v) :: done))
  | .after (.object done k :: fs) v, .closeObject =>
    some (.after fs (.object (Members.ofPairs ((k, v) :: done).reverse)))
  | .after _ _, _ => none

def State.run : State → List Token → Option State
  | s, [] => some s
  | s, t :: ts => (s.step t).bind fun s' => s'.run ts

def State.value? : State → Option Value
  | .after [] v => some v
  | _ => none

/-- How many lists and objects are open. -/
def State.depth : State → Nat
  | .wantValue fs | .after fs _ => fs.length
  | .wantElement fs | .wantMember fs | .wantKey fs _ | .wantColon fs _ _ => fs.length + 1

theorem State.run_append (s : State) (ts us : List Token) :
    s.run (ts ++ us) = (s.run ts).bind fun s' => s'.run us := by
  induction ts generalizing s with
  | nil => rfl
  | cons t ts ih =>
    rw [List.cons_append, State.run, State.run]
    cases s.step t with
    | none => rfl
    | some s' => exact ih s'

/-- The greatest number of open lists and objects around a value or a key, `depth` of them around
the whole. -/
def nestingFrom (depth : Nat) : List Token → Nat
  | [] => 0
  | .openList :: r | .openObject :: r => max depth (nestingFrom (depth + 1) r)
  | .closeList :: r | .closeObject :: r => nestingFrom (depth - 1) r
  | _ :: r => max depth (nestingFrom depth r)

/-- What a reader puts up with. -/
structure Tolerance where
  /-- Stands for half a surrogate pair; without it a half is refused. -/
  half : Option Char
  /-- The greatest nesting, if there is one. -/
  nesting : Option Nat

def Tolerance.wide : Tolerance := ⟨some (Char.ofNat 0xFFFD), none⟩

def Tolerance.narrow : Tolerance := ⟨none, some 200⟩

def parseWith? (t : Tolerance) (s : String) : Option Value := do
  let ts ← tokens? t.half s
  guard (t.nesting.all fun n => nestingFrom 0 ts ≤ n)
  let st ← (State.wantValue []).run ts
  st.value?

def parse? (s : String) : Option Value := parseWith? .wide s

end LedgerClient.Json
