import LedgerClient.Bytes.Base64
import LedgerClient.Wire.Encoding

/-!
Reading the canonical binary form. A reader takes bytes from the front of what is left and, when it
fails, leaves the rest where it stopped. The bytes may be carried as base 64 text.
-/

namespace LedgerClient

/-- What is left of a buffer of `size` bytes. -/
structure Cursor where
  size : Nat
  rest : Bytes

def Cursor.ofBytes (bs : Bytes) : Cursor := ⟨bs.length, bs⟩

def Cursor.offset (c : Cursor) : Nat := c.size - c.rest.length

def Reader (α : Type) := Cursor → Except Error α × Cursor

namespace Reader

variable {α β : Type}

def pure (a : α) : Reader α := fun c => (.ok a, c)

def bind (r : Reader α) (f : α → Reader β) : Reader β := fun c =>
  match r c with
  | (.ok a, c') => f a c'
  | (.error e, c') => (.error e, c')

instance : Monad Reader where
  pure := pure
  bind := bind

def fail (e : Error) : Reader α := fun c => (.error e, c)

/-- A result that was found apart from the bytes. -/
def lift (x : Except Error α) : Reader α := fun c => (x, c)

def refuse (message : String) : Reader α := fail (.plain .encoding message)

def overrun (c : Cursor) (wanted : Int) (what : String) : Error :=
  .client .encoding ("Buffer overflow: attempting to read " ++ what ++ " beyond end")
    [("offset", .int c.offset), ("wanted", .int wanted), ("size", .int c.size)] none

def take (n : Int) (what : String) : Reader Bytes := fun c =>
  if n < 0 ∨ c.rest.length < n then (.error (overrun c n what), c)
  else (.ok (c.rest.take n.toNat), { c with rest := c.rest.drop n.toNat })

def int (w : Width) : Reader Nat := do return Bytes.toNatLE (← take w.size w.name)

def tag : Reader Nat := int .u8

/-- So many bytes. The number is written down before it is looked at. -/
def raw (n : Int) : Reader Bytes :=
  if Text.isOverlong n then fail .unwritten else take n (Text.intText n ++ " bytes")

def counted : Reader Bytes := do take (← int .u32) "byte vector"

def text : Reader String := do
  match Utf8.decode? (← counted) with
  | some s => return s
  | none => fail (.client .encoding "Invalid UTF-8 in string" [] (some (.host .notUtf8)))

def option (read : Reader α) : Reader (Option α) := do
  match ← tag with
  | 0 => return none
  | 1 => return some (← read)
  | n => refuse ("Invalid option tag: " ++ Text.natText n)

def times (read : Reader α) : Nat → Reader (List α)
  | 0 => return []
  | n + 1 => do
    let a ← read
    let r ← times read n
    return a :: r

def sequence (read : Reader α) : Reader (List α) := do times read (← int .u32)

def expectEnd : Reader Unit := fun c =>
  if c.rest.isEmpty then (.ok (), c)
  else (.error (.plain .encoding
    ("Trailing bytes after decode: " ++ Text.natText c.rest.length)), c)

/-- Reads a whole buffer. -/
def whole (read : Reader α) (bs : Bytes) : Except Error α :=
  ((do
    let a ← read
    expectEnd
    return a : Reader α) (Cursor.ofBytes bs)).1

@[simp] theorem pure_run (a : α) (c : Cursor) : (Pure.pure a : Reader α) c = (.ok a, c) := rfl

@[simp] theorem lift_run (x : Except Error α) (c : Cursor) : lift x c = (x, c) := rfl

theorem bind_ok {r : Reader α} {f : α → Reader β} {c c' : Cursor} {a : α}
    (h : r c = (.ok a, c')) : (r >>= f) c = f a c' := by
  show bind r f c = _
  rw [bind, h]

theorem bind_error {r : Reader α} {f : α → Reader β} {c c' : Cursor} {e : Error}
    (h : r c = (.error e, c')) : (r >>= f) c = (.error e, c') := by
  show bind r f c = _
  rw [bind, h]

end Reader

namespace Base64

def Fault.toError : Fault → Error
  | nonAscii => .badValue "string argument should contain only ASCII characters"
  | incomplete => .host .notBase64

def bytes (s : String) : Except Error Bytes := (decode s).mapError Fault.toError

end Base64

end LedgerClient
