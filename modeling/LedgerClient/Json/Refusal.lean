import LedgerClient.Error.Basic
import LedgerClient.Json.Parser

/-!
Texts that are not read. The decoder goes through a text once and stops at the first thing that it
does not come to terms with. Not all of that is a fault of the text: whole numbers of too many
digits and lists and objects that fill the stack are JSON, and it is the host that strains at them.
-/

namespace LedgerClient.Json

/-! ### Words and numbers -/

/-- The longest word or number at the front of a run of characters. -/
def atomFront (cs : List Char) : List Char :=
  let isAtom (n : Nat) : Bool := (atom? (cs.take n)).isSome
  cs.take (((List.range (cs.length + 1)).reverse.find? isAtom).getD 0)

/-- The number of digits of a whole number at the front, if these are more than are read. -/
def overlong? (cs : List Char) : Option Nat :=
  let front := atomFront cs
  let digits := (front.filter Char.isDigit).length
  match atom? front with
  | some (.int _) => if Text.digitLimit < digits then some digits else none
  | _ => none

/-! ### What the decoder waits for -/

namespace State

def wantsValue : State → Bool
  | wantValue _ | wantElement _ => true
  | _ => false

def wantsText : State → Bool
  | wantMember _ | wantKey _ _ => true
  | st => st.wantsValue

/-- The state behind a value where one is wanted. -/
def behindValue : State → State
  | wantValue fs => after fs .null
  | wantElement fs => after (.list [] :: fs) .null
  | st => st

/-- What is said about a character that does not belong here. -/
def expectation : State → String
  | wantValue _ | wantElement _ => "Expecting value"
  | wantMember _ | wantKey _ _ => "Expecting property name enclosed in double quotes"
  | wantColon _ _ _ => "Expecting ':' delimiter"
  | after [] _ => "Extra data"
  | after _ _ => "Expecting ',' delimiter"

/-- What was opened last. -/
def descent : State → Descent
  | wantElement _ => .readingList
  | _ => .readingObject

end State

/-! ### Strains -/

/-- How many lists and objects within one another the stack of the host holds while they are read.
It ends after a thousand calls, some of which are under way before. -/
def depthLimit : Nat := 975

/-- The fault that a word or number leads to which has just ended. -/
def atomStrain? (l : Lexer) (st : State) : Option Fault :=
  match l with
  | .inAtom read =>
    if st.wantsValue then (overlong? read.reverse).map fun n => .badValue (Text.unreadText n)
    else none
  | _ => none

/-- What the host strains at before anything is wrong with the text itself: an overlong number, or
more lists and objects within one another than the limit. -/
def strainFrom (half : Option Char) (limit : Nat) : Lexer → State → List Char → Option Fault
  | l, st, [] => atomStrain? l st
  | l, st, c :: cs => match l.step half c with
    | none => atomStrain? l st
    | some (l', ts) => match (if ts.isEmpty then none else atomStrain? l st) with
      | some f => some f
      | none => match st.run ts with
        | none => none
        | some st' =>
          if limit < st'.depth then some (.tooDeep st'.descent)
          else strainFrom half limit l' st' cs

/-- What the host strains at in a text. A short one has room for neither. -/
def strain? (s : String) : Option Fault :=
  if s.length ≤ depthLimit then none
  else strainFrom Tolerance.wide.half depthLimit .between (.wantValue []) s.toList

theorem strain?_of_length_le {s : String} (h : s.length ≤ depthLimit) : strain? s = none :=
  if_pos h

/-! ### Complaints -/

/-- What is wrong with a text, and where. -/
structure Complaint where
  message : String
  place : Nat

/-- What is wrong with an escape whose backslash stands at `i`, in a text that starts at `start`. -/
def escapeComplaint? (start i : Nat) : List Char → Option Complaint
  | [] => some ⟨"Unterminated string starting at", start⟩
  | c :: cs =>
    if c = 'u' then
      let digits := (cs.take 4).all fun d => (Text.hexDigit? d).isSome
      if digits && !(cs.drop 4).isEmpty then none
      else some ⟨"Invalid \\uXXXX escape", i + 1⟩
    else if (escaped? c).isSome then none
    else some ⟨"Invalid \\escape", i⟩

/-- What is wrong with a text that starts at `start`, from `i` on; of what comes, so many characters
belong to an escape that is in order. -/
def textComplaint? (start : Nat) : Nat → Nat → List Char → Option Complaint
  | _, _, [] => some ⟨"Unterminated string starting at", start⟩
  | i, passing + 1, _ :: cs => textComplaint? start (i + 1) passing cs
  | i, 0, c :: cs =>
    if c = '"' then none
    else if c = '\\' then match escapeComplaint? start i cs with
      | some x => some x
      | none => textComplaint? start (i + 1) (if cs.head? = some 'u' then 5 else 1) cs
    else if c.toNat < 32 then some ⟨"Invalid control character at", i⟩
    else textComplaint? start (i + 1) 0 cs

/-- What is wrong at `i`, where the lexeme at hand starts at `start`. -/
def complaintAt (whole : List Char) (l : Lexer) (st : State) (start i : Nat) : Complaint :=
  match l with
  | .between => ⟨st.expectation, i⟩
  | .inAtom read =>
    let front := atomFront read.reverse
    if st.wantsValue && !front.isEmpty then ⟨st.behindValue.expectation, start + front.length⟩
    else ⟨st.expectation, start⟩
  | _ =>
    let own := textComplaint? start (start + 1) 0 (whole.drop (start + 1))
    if st.wantsText then own.getD ⟨st.expectation, start⟩ else ⟨st.expectation, start⟩

/-- What is wrong with a text that is no JSON, from `i` on. -/
def complaintFrom (half : Option Char) (whole : List Char) :
    Lexer → State → Nat → Nat → List Char → Complaint
  | l, st, start, i, [] => complaintAt whole l st start i
  | l, st, start, i, c :: cs => match l.step half c with
    | none => complaintAt whole l st start i
    | some (l', ts) => match st.run ts with
      | none => complaintAt whole l st start i
      | some st' =>
        let begins := match l with
          | .between => true
          | _ => !ts.isEmpty
        complaintFrom half whole l' st' (if begins then i else start) (i + 1) cs

/-- A complaint with its place by line and column. -/
def Complaint.display (x : Complaint) (whole : List Char) : String :=
  let before := whole.take x.place
  let column := (before.reverse.takeWhile (· != '\n')).length + 1
  x.message ++ ": line " ++ Text.natText (before.count '\n' + 1) ++ " column "
    ++ Text.natText column ++ " (char " ++ Text.natText x.place ++ ")"

/-- What is said about a text that is no JSON. -/
def complaint (s : String) : String :=
  let cs := s.toList
  let x : Complaint := match cs with
    | '\uFEFF' :: _ => ⟨"Unexpected UTF-8 BOM (decode using utf-8-sig)", 0⟩
    | _ => complaintFrom Tolerance.wide.half cs .between (.wantValue []) 0 0 cs
  x.display cs

end LedgerClient.Json
