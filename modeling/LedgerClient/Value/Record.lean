import LedgerClient.Bytes.Hex
import LedgerClient.Value.Basic

/-!
Records: objects whose members stand for the parts of something. Parts are written by what they
are, and read leniently, so that a member that is not there counts as empty.
-/

namespace LedgerClient

/-- Types with a plain form. -/
class ToValue (α : Type) where
  toValue : α → Value

export ToValue (toValue)

instance {α : Type} [ToValue α] : CoeOut α Value := ⟨toValue⟩

instance : ToValue Value := ⟨id⟩

instance : ToValue String := ⟨.text⟩

instance : ToValue Bool := ⟨.bool⟩

instance : ToValue Nat := ⟨fun n => .int n⟩

instance : ToValue Int := ⟨.int⟩

instance : ToValue Float := ⟨.float⟩

instance : ToValue Bytes := ⟨.bytes⟩

instance : ToValue Members := ⟨.object⟩

instance {α : Type} [ToValue α] : ToValue (Option α) := ⟨fun a => (a.map toValue).getD .null⟩

instance {α : Type} [ToValue α] : ToValue (List α) := ⟨fun xs => .list (xs.map toValue)⟩

/-- The elements of a list, and none of any other value. -/
def Value.items : Value → List Value
  | list xs => xs
  | _ => []

def Value.record : Value → Members
  | object ms => ms
  | _ => []

namespace Members

variable (ms : Members) (k : String)

/-- The text of a member. -/
def word : String := ((ms.get k).text?).getD ""

/-- The bytes that a member spells in hexadecimal digits. -/
def hex : Bytes := (Hex.decode? (ms.word k)).getD []

def items : List Value := (ms.get k).items

def record : Members := (ms.get k).record

def texts : List String := (ms.items k).filterMap (·.text?)

/-- More members behind those that are there. -/
def also (more : Members) : Members := ms ++ more

/-- Reads a member that may be missing. -/
def given {α ε : Type} (standard : α) (f : Value → Except ε α) : Except ε α :=
  if ms.has k then f (ms.get k) else .ok standard

theorem sizeOf_get_lt : sizeOf (ms.get k) < sizeOf (Value.object ms) := by
  induction ms with
  | nil => simp [get]
  | cons m r ih =>
    obtain ⟨k', v⟩ := m
    by_cases h : k == k'
    · simp [get, List.lookup_cons, h]
      omega
    · simp [get, List.lookup_cons, h] at ih ⊢
      omega

end Members

theorem Value.sizeOf_lt_of_mem_items {v w : Value} (h : v ∈ w.items) : sizeOf v < sizeOf w := by
  cases w with
  | list xs =>
    have := List.sizeOf_lt_of_mem (show v ∈ xs from h)
    simp
    omega
  | _ => simp [Value.items] at h

end LedgerClient
