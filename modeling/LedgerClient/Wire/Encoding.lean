import LedgerClient.Error.Basic
import LedgerClient.Bytes.Utf8

/-!
Writing the canonical binary form: whole numbers of a fixed width with the lowest byte first, a
count of four bytes in front of texts and sequences, and one byte for a choice. Encodings are put
together by `++`, and the first fault ends the text written.
-/

namespace LedgerClient

inductive Width where
  | u8
  | u32
  | u64
  | u128
  deriving DecidableEq, Repr

namespace Width

def size : Width → Nat
  | u8 => 1
  | u32 => 4
  | u64 => 8
  | u128 => 16

def name : Width → String
  | u8 => "u8"
  | u32 => "u32"
  | u64 => "u64"
  | u128 => "u128"

def fits (w : Width) (n : Int) : Bool := 0 ≤ n && n < Nat.pow 256 w.size

end Width

/-- Bytes written, and the error that ended the writing. -/
structure Encoding where
  bytes : Bytes
  fault : Option Error

namespace Encoding

def ofBytes (bs : Bytes) : Encoding := ⟨bs, none⟩

def fail (e : Error) : Encoding := ⟨[], some e⟩

def append (a b : Encoding) : Encoding :=
  match a.fault with
  | none => ⟨a.bytes ++ b.bytes, b.fault⟩
  | some e => ⟨a.bytes, some e⟩

instance : Append Encoding := ⟨append⟩

instance : EmptyCollection Encoding := ⟨ofBytes []⟩

def toBytes (e : Encoding) : Except Error Bytes :=
  match e.fault with
  | none => .ok e.bytes
  | some f => .error f

def outOfRange (w : Width) (shown : String) : Error :=
  .plain .encoding ("Value out of range for " ++ w.name ++ ": " ++ shown)

/-- The error of a number that does not fit; `shown` is how it appears, unless it is too long. -/
def misfit (w : Width) (n : Int) (shown : String) : Error :=
  if Text.isOverlong n then .unwritten else outOfRange w shown

def int (w : Width) (n : Int) : Encoding :=
  if w.fits n then ofBytes (Bytes.ofNatLE w.size n.toNat)
  else fail (misfit w n (Text.intText n))

def tag (n : Nat) : Encoding := int .u8 n

/-- Bytes behind their count. -/
def counted (bs : Bytes) : Encoding := int .u32 bs.length ++ ofBytes bs

def text (s : String) : Encoding := counted (Utf8.encode s)

def option {α : Type} (write : α → Encoding) : Option α → Encoding
  | none => tag 0
  | some a => tag 1 ++ write a

def all {α : Type} (write : α → Encoding) : List α → Encoding
  | [] => ∅
  | a :: r => write a ++ all write r

/-- Elements behind their count. -/
def sequence {α : Type} (write : α → Encoding) (xs : List α) : Encoding :=
  int .u32 xs.length ++ all write xs

@[simp] theorem append_eq (a b : Encoding) : a ++ b = append a b := rfl

theorem append_assoc (a b c : Encoding) : a ++ b ++ c = a ++ (b ++ c) := by
  obtain ⟨x, _ | f⟩ := a <;> obtain ⟨y, _ | g⟩ := b <;> simp [append]

theorem toBytes_append_ok {a b : Encoding} {bs : Bytes} (h : (a ++ b).toBytes = .ok bs) :
    ∃ x y, a.toBytes = .ok x ∧ b.toBytes = .ok y ∧ bs = x ++ y := by
  obtain ⟨x, _ | f⟩ := a
  · obtain ⟨y, _ | g⟩ := b
    · refine ⟨x, y, rfl, rfl, ?_⟩
      simpa [append, toBytes, eq_comm] using h
    · simp [append, toBytes] at h
  · simp [append, toBytes] at h

end Encoding

end LedgerClient
