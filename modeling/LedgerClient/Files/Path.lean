import LedgerClient.Error.Basic

/-!
Paths of files. Empty parts and parts of one point vanish; a part of two points stays.
-/

namespace LedgerClient.Files

/-- Slashes in front, and the parts between slashes. Two slashes in front differ from one. -/
structure Path where
  slashes : Nat
  parts : List String
  deriving DecidableEq, Repr

namespace Path

def keptPart (p : List Char) : Bool := !p.isEmpty && p != ['.']

def ofText (s : String) : Path :=
  let cs := s.toList
  let front := (cs.takeWhile (· == '/')).length
  ⟨if front = 2 then 2 else min front 1,
    ((Text.splitOn (· == '/') cs).filter keptPart).map String.ofList⟩

/-- One path behind another; an absolute one stands for itself. -/
def join (a b : Path) : Path := if b.slashes = 0 then ⟨a.slashes, a.parts ++ b.parts⟩ else b

def text (p : Path) : String :=
  if p.slashes = 0 ∧ p.parts = [] then "."
  else String.ofList (List.replicate p.slashes '/') ++ "/".intercalate p.parts

/-- The path with a tilde in front replaced by the home directory. Other users' are unknown. -/
def expand (home : String) (p : Path) : Except Error Path :=
  match p.slashes, p.parts with
  | 0, first :: rest =>
    if first == "~" then .ok ((ofText home).join ⟨0, rest⟩)
    else if first.toList.head? == some '~' then
      .error (.host (.interrupted "Could not determine home directory."))
    else .ok p
  | _, _ => .ok p

end Path

end LedgerClient.Files
