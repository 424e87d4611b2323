import LedgerClient.Digest

/-!
Which block a query is asked of: a level of confidence, a height, or a block's digest.
-/

namespace LedgerClient

inductive Finality where
  | optimistic
  | nearFinal
  | final
  deriving DecidableEq, Repr

namespace Finality

def all : List Finality := [optimistic, nearFinal, final]

def text : Finality → String
  | optimistic => "optimistic"
  | nearFinal => "near-final"
  | final => "final"

def ofText? (s : String) : Option Finality := all.find? (·.text == s)

def ofValue (v : Value) : Except Error Finality :=
  match v.text?.bind ofText? with
  | some f => .ok f
  | none => .error (.badValue (v.literal ++ " is not a valid Finality"))

end Finality

/-- The height is passed on as it was given. -/
inductive BlockRef where
  | finality (f : Finality)
  | height (h : Value)
  | hash (d : Digest)

namespace BlockRef

/-- From three parts of which exactly one is there. -/
def ofParts (level height hash : Value) : Except Error BlockRef :=
  match level.isNull, height.isNull, hash.isNull with
  | false, true, true => (Finality.ofValue level).map .finality
  | true, false, true => .ok (.height height)
  | true, true, false => (Digest.ofValue hash).map .hash
  | _, _, _ =>
    .error (.badValue "BlockReference needs exactly one of finality, height or hash")

/-- Nothing stands for the optimistic level, a number for a height, and text for a level or else
a digest. -/
def ofValue : Value → Except Error BlockRef
  | .null => .ok (.finality .optimistic)
  | .bool _ => .error (.host (.wrongKind (some "Block reference cannot be a bool")))
  | .int n => .ok (.height (.int n))
  | .text s => match Finality.ofText? s with
    | some f => .ok (.finality f)
    | none => (Digest.parse s).map .hash
  | v => (Digest.ofRaw v).map .hash

def params : BlockRef → Members
  | finality f => [("finality", .text f.text)]
  | height h => [("block_id", h)]
  | hash d => [("block_id", .text d.text)]

def same (a b : BlockRef) : Bool := (Value.object a.params).same (.object b.params)

def display (r : BlockRef) : String := "BlockReference(" ++ (Value.object r.params).literal ++ ")"

end BlockRef

end LedgerClient
