import LedgerClient.Wire.Reader
import LedgerClient.Digest

/-!
Shapes of values in the binary form, with a writer and a reader for each shape. Any value whose
elements can be gone through is written as a list.
-/

namespace LedgerClient

inductive Schema where
  | int (w : Width)
  | bytes
  | fixed (n : Int)
  | text
  | option (s : Schema)
  | vec (s : Schema)
  deriving Repr, Inhabited

namespace Schema

/-- A shape by its name, or by a list of a name and what it is made of. -/
def ofValue : Value → Schema
  | .text "u8" => int .u8
  | .text "u32" => int .u32
  | .text "u64" => int .u64
  | .text "u128" => int .u128
  | .text "bytes" => bytes
  | .text "fixed_bytes" => fixed 0
  | .list [.text "fixed_bytes", .int n] => fixed n
  | .list [.text "option", t] => option (ofValue t)
  | .list [.text "vec", t] => vec (ofValue t)
  | _ => text

def writeInt (w : Width) (v : Value) : Encoding :=
  match v.whole? with
  | some n => if w.fits n then Encoding.int w n else .fail (Encoding.misfit w n v.display)
  | none => match w, v with
    | .u128, .float f =>
      if Float.ofBits 0 ≤ f && f < Float.ofScientific (Nat.pow 2 128) false 0 then
        .fail (.host .noMember)
      else .fail (Encoding.outOfRange w v.display)
    | .u128, _ => .fail .wrongKind
    | w, v => .fail (Encoding.outOfRange w v.display)

/-- The bytes of a value; an empty value of any kind with parts has none. -/
def writeRaw : Value → Encoding
  | .bytes bs => .ofBytes bs
  | .list xs => match Digest.bytesOfList "byte" xs with
    | .ok bs => .ofBytes bs
    | .error e => .fail e
  | .text "" | .object [] => ∅
  | _ => .fail .wrongKind

def sizeOf? : Value → Option Nat
  | .bytes bs => some bs.length
  | .list xs => some xs.length
  | .text s => some s.length
  | .object ms => some ms.length
  | _ => none

/-- The elements of a value that can be gone through. -/
def elements? : Value → Option (List Value)
  | .list xs => some xs
  | .text s => some (s.toList.map fun c => .text (String.singleton c))
  | .bytes bs => some (bs.map fun b => .int b.toNat)
  | .object ms => some (ms.map fun m => .text m.1)
  | _ => none

/-- The bytes of a value behind their number. -/
def writeCounted (v : Value) : Encoding :=
  match sizeOf? v with
  | some n => Encoding.int .u32 n ++ writeRaw v
  | none => .fail .wrongKind

def writeText : Value → Encoding
  | .text s => Encoding.text s
  | _ => .fail (.host .noMember)

def writeOption (write : Value → Encoding) : Value → Encoding
  | .null => Encoding.tag 0
  | v => Encoding.tag 1 ++ write v

def writeVec (write : Value → Encoding) (v : Value) : Encoding :=
  match elements? v with
  | some xs => Encoding.sequence write xs
  | none => .fail .wrongKind

def readOption (read : Reader Value) : Reader Value := do
  return (← Reader.option read).getD .null

def readVec (read : Reader Value) : Reader Value := do return .list (← Reader.sequence read)

/-! ### Calls within one another

Writing and reading by a shape take calls within one another, more of them the more the shape is
nested. The stack holds only so many. -/

/-- Calls that the stack of the host holds behind those under way. -/
def stackLimit : Nat := 985

/-- Calls that a part without parts takes, its error included. -/
def reserve : Nat := 5

def tooDeep : Error := .host (.tooDeep .calling)

/-- Writes if enough calls are left. -/
def writeOn (free : Nat) (e : Encoding) : Encoding :=
  if free < reserve then .fail tooDeep else e

/-- Reads if enough calls are left. -/
def readOn (free : Nat) (r : Reader Value) : Reader Value :=
  if free < reserve then Reader.fail tooDeep else r

/-- Writes with so many calls left. What is within an option or a list is called by two of them. -/
def writeFrom : Schema → Nat → Value → Encoding
  | int w, free, v => writeOn free (writeInt w v)
  | bytes, free, v => writeOn free (writeCounted v)
  | fixed _, free, v => writeOn free (writeRaw v)
  | text, free, v => writeOn free (writeText v)
  | option s, free, v => writeOn free (writeOption (s.writeFrom (free - 2)) v)
  | vec s, free, v => writeOn free (writeVec (s.writeFrom (free - 2)) v)

/-- Reads with so many calls left. Going through a list takes one call more than an option. -/
def readFrom : Schema → Nat → Reader Value
  | int w, free => readOn free do return .int (← Reader.int w)
  | bytes, free => readOn free do return .bytes (← Reader.counted)
  | fixed n, free => readOn free do return .bytes (← Reader.raw n)
  | text, free => readOn free do return .text (← Reader.text)
  | option s, free => readOn free (readOption (s.readFrom (free - 2)))
  | vec s, free => readOn free (readVec (s.readFrom (free - 3)))

def write (s : Schema) (v : Value) : Encoding := s.writeFrom stackLimit v

def read (s : Schema) : Reader Value := s.readFrom stackLimit

end Schema

end LedgerClient
