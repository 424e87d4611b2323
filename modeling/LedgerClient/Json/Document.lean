import LedgerClient.Bytes.Utf8
import LedgerClient.Json.Printer
import LedgerClient.Json.Refusal

/-!
JSON documents, read from text and bytes and written as text.
-/

namespace LedgerClient.Json

def parse (s : String) : Except Error Value :=
  match strain? s with
  | some f => .error (.host f)
  | none => match parse? s with
    | some v => .ok v
    | none => .error (.host (.notJson (complaint s)))

/-- The host strains at the text, or it is no JSON. -/
theorem parse_error {s : String} {e : Error} (h : parse s = .error e) :
    (∃ f, strain? s = some f ∧ e = .host f) ∨ e = .host (.notJson (complaint s)) := by
  rw [parse] at h
  split at h
  · rename_i f hf
    exact .inl ⟨f, hf, (Except.error.inj h).symm⟩
  · split at h
    · cases h
    · exact .inr (Except.error.inj h).symm

theorem parse_of_strain {s : String} {f : Fault} (h : strain? s = some f) :
    parse s = .error (.host f) := by
  rw [parse, h]

def ofBytes (bs : Bytes) : Except Error Value :=
  match Utf8.decode? bs with
  | some s => parse s
  | none => .error (.host .notUtf8)

/-- How many lists and objects within one another the stack of the host holds while they are
written. -/
def writeLimit : Nat := 965

/-- What keeps a value from being written, the first thing of that kind in it; `depth` lists and
objects are around it. -/
def obstacle? : Nat → Value → Option Fault
  | _, .int n => if Text.isOverlong n then some (.badValue Text.unwrittenText) else none
  | _, .bytes _ => some (.wrongKind none)
  | depth, .list xs =>
    if writeLimit ≤ depth then some (.tooDeep .writing) else items (depth + 1) xs
  | depth, .object ms =>
    if writeLimit ≤ depth then some (.tooDeep .writing) else entries (depth + 1) ms
  | _, _ => none
where
  items : Nat → List Value → Option Fault
    | _, [] => none
    | depth, x :: xs => match obstacle? depth x with
      | some f => some f
      | none => items depth xs
  entries : Nat → Members → Option Fault
    | _, [] => none
    | depth, (_, v) :: r => match obstacle? depth v with
      | some f => some f
      | none => entries depth r

/-- Passes if a value can be written. -/
def check (v : Value) : Except Error Unit :=
  match obstacle? 0 v with
  | some f => .error (.host f)
  | none => .ok ()

/-- Nothing else than the host keeps a value from being written. -/
theorem check_error {v : Value} {e : Error} (h : check v = .error e) : ∃ f, e = .host f := by
  rw [check] at h
  split at h
  · exact ⟨_, (Except.error.inj h).symm⟩
  · cases h

/-- The text of a value that can be written. -/
def write (st : Style) (v : Value) : Except Error String := do
  check v
  (print? st v).elim (.error .wrongKind) .ok

end LedgerClient.Json
