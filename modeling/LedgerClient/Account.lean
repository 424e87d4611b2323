import LedgerClient.Error.Basic

/-!
Account identifiers: 64 hexadecimal digits, `0x` and 40 of them, or a name of segments joined by
points. A valid text is checked once, when the identifier is made.
-/

namespace LedgerClient

/-- Why a text is no account identifier. -/
inductive AccountId.Fault where
  | notText (kind : String)
  | empty
  | tooLong (s : String)
  | hexLength (s : String)
  | hexCharacter (s : String)
  | tooShort (s : String)
  | badCharacter (c : Char) (s : String)
  | emptySegment (s : String)
  | edgeSeparator (s : String)
  deriving DecidableEq, Repr

namespace AccountId

def maxLength : Nat := 64

def minLength : Nat := 2

def Fault.message : Fault → String
  | notText kind => "Account ID must be a string, got " ++ kind
  | empty => "Account ID cannot be empty"
  | tooLong s => "Account ID too long (max 64): " ++ s
  | hexLength s => "Invalid EVM implicit account ID: " ++ s
  | hexCharacter s => "Invalid character in EVM implicit account ID: " ++ s
  | tooShort s => "Account ID too short (min 2): " ++ s
  | badCharacter c s =>
    "Invalid character " ++ Text.quoted (String.singleton c) ++ " in account ID: " ++ s
  | emptySegment s => "Invalid account ID format (empty segment): " ++ s
  | edgeSeparator s =>
    "Invalid account ID format (segment starts or ends with separator): " ++ s

def isHex (c : Char) : Bool :=
  ('0' ≤ c && c ≤ '9') || ('a' ≤ c && c ≤ 'f') || ('A' ≤ c && c ≤ 'F')

def isNameChar (c : Char) : Bool :=
  ('a' ≤ c && c ≤ 'z') || ('0' ≤ c && c ≤ '9') || c == '_' || c == '-' || c == '.'

def isSeparator (c : Char) : Bool := c == '-' || c == '_'

def isHexName (cs : List Char) : Bool := cs.length == 64 && cs.all isHex

def startsHex : List Char → Bool
  | '0' :: 'x' :: _ => true
  | _ => false

/-- The text less one line feed at its end, which the check of characters passes over. -/
def dropFinalFeed (cs : List Char) : List Char :=
  if cs.getLast? == some '\n' then cs.dropLast else cs

/-- The first character that no name holds. A line feed counts unless it ends a longer text. -/
def badCharacter? (cs : List Char) : Option Char :=
  let body := dropFinalFeed cs
  if body.isEmpty then cs.head?
  else if body.all isNameChar then none
  else cs.find? fun c => !isNameChar c

def segmentFault? (s : String) (seg : List Char) : Option Fault :=
  match seg.head?, seg.getLast? with
  | some a, some b => if isSeparator a || isSeparator b then some (.edgeSeparator s) else none
  | _, _ => some (.emptySegment s)

def segments (cs : List Char) : List (List Char) := Text.splitOn (· == '.') cs

def nameFault? (s : String) : Option Fault :=
  match badCharacter? s.toList with
  | some c => some (.badCharacter c s)
  | none => (segments s.toList).findSome? (segmentFault? s)

/-- The first fault of a text, if it has one. -/
def fault? (s : String) : Option Fault :=
  let cs := s.toList
  if cs.isEmpty then some .empty
  else if maxLength < cs.length then some (.tooLong s)
  else if startsHex cs then
    if cs.length ≠ 42 then some (.hexLength s)
    else if (cs.drop 2).all isHex then none
    else some (.hexCharacter s)
  else if isHexName cs then none
  else if cs.length < minLength then some (.tooShort s)
  else nameFault? s

end AccountId

structure AccountId where
  text : String
  valid : AccountId.fault? text = none

namespace AccountId

instance : DecidableEq AccountId := fun a b =>
  if h : a.text = b.text then .isTrue (by cases a; cases b; simp_all)
  else .isFalse fun e => h (e ▸ rfl)

theorem ext {a b : AccountId} (h : a.text = b.text) : a = b := by
  cases a; cases b; simp_all

def ofText (s : String) : Except Fault AccountId :=
  match h : fault? s with
  | none => .ok ⟨s, h⟩
  | some f => .error f

theorem ofText_text (a : AccountId) : ofText a.text = .ok a := by
  unfold ofText
  split
  · rfl
  · rename_i f h
    rw [a.valid] at h
    simp at h

theorem text_of_ofText {s : String} {a : AccountId} (h : ofText s = .ok a) : a.text = s := by
  unfold ofText at h
  split at h
  · injection h with h
    rw [← h]
  · simp at h

def Fault.toError (f : Fault) : Error := .plain .account f.message

def parse (s : String) : Except Error AccountId := (ofText s).mapError Fault.toError

def ofValue : Value → Except Error AccountId
  | .text s => parse s
  | v => .error (Fault.notText v.kindName).toError

def chars (a : AccountId) : List Char := a.text.toList

/-- 64 hexadecimal digits. -/
def isImplicit (a : AccountId) : Bool := isHexName a.chars

def isEvmImplicit (a : AccountId) : Bool := startsHex a.chars && a.chars.length == 42

def isNamed (a : AccountId) : Bool := !a.isImplicit && !a.isEvmImplicit

def isTopLevel (a : AccountId) : Bool := a.isNamed && !a.chars.contains '.'

def isSubAccountOf (a parent : AccountId) : Bool :=
  a.isNamed && parent.isNamed && ('.' :: parent.chars).isSuffixOf a.chars
    && decide (parent.chars.length + 1 < a.chars.length)

/-- The account one level up, or the fault of the text behind the first point. -/
def parent? (a : AccountId) : Except Error (Option AccountId) :=
  if !a.isNamed || !a.chars.contains '.' then .ok none
  else (parse (String.ofList ((a.chars.dropWhile (· != '.')).drop 1))).map some

def display (a : AccountId) : String := "AccountId(" ++ Text.quoted a.text ++ ")"

end AccountId

end LedgerClient
