import LedgerClient.Account
import LedgerClient.Amount.Text
import LedgerClient.Digest
import LedgerClient.Wire.Reader

/-!
Binary forms of identifiers, digests, amounts and counters.
-/

namespace LedgerClient

def AccountId.encoding (a : AccountId) : Encoding := Encoding.text a.text

def AccountId.read : Reader AccountId := do Reader.lift (AccountId.parse (← Reader.text))

def Digest.encoding (d : Digest) : Encoding := Encoding.ofBytes d.bytes

def Digest.read : Reader Digest := do Reader.lift (Digest.ofBytes (← Reader.raw 32))

namespace Amount

def width : Measure → Width
  | .token => .u128
  | .gas => .u64

variable {m : Measure}

def encoding (a : Amount m) : Encoding := Encoding.int (width m) a.value

def read : Reader (Amount m) := do Reader.lift (ofInt (← Reader.int (width m)))

end Amount

/-- A nonce or a height as it was given. What is no whole number is kept as it is shown; it has no
binary form. -/
inductive Counter where
  | whole (n : Int)
  | other (shown : String)
  deriving DecidableEq, Repr

namespace Counter

def ofValue (v : Value) : Counter :=
  match v.whole? with
  | some n => whole n
  | none => other v.display

def encoding : Counter → Encoding
  | whole n => Encoding.int .u64 n
  | other shown => .fail (Encoding.outOfRange .u64 shown)

def read : Reader Counter := do return whole (← Reader.int .u64)

end Counter

end LedgerClient
