import LedgerClient.Bytes.Basic

/-!
The SHA-256 digest. A message is padded to whole blocks of 64 bytes, which are mixed into a
state of eight words one after the other.
-/

namespace LedgerClient.Sha256

structure State where
  a : UInt32
  b : UInt32
  c : UInt32
  d : UInt32
  e : UInt32
  f : UInt32
  g : UInt32
  h : UInt32

def initial : State :=
  ⟨0x6a09e667, 0xbb67ae85, 0x3c6ef372, 0xa54ff53a,
    0x510e527f, 0x9b05688c, 0x1f83d9ab, 0x5be0cd19⟩

def roundConstants : Array UInt32 :=
  #[0x428a2f98, 0x71374491, 0xb5c0fbcf, 0xe9b5dba5, 0x3956c25b, 0x59f111f1, 0x923f82a4, 0xab1c5ed5,
    0xd807aa98, 0x12835b01, 0x243185be, 0x550c7dc3, 0x72be5d74, 0x80deb1fe, 0x9bdc06a7, 0xc19bf174,
    0xe49b69c1, 0xefbe4786, 0x0fc19dc6, 0x240ca1cc, 0x2de92c6f, 0x4a7484aa, 0x5cb0a9dc, 0x76f988da,
    0x983e5152, 0xa831c66d, 0xb00327c8, 0xbf597fc7, 0xc6e00bf3, 0xd5a79147, 0x06ca6351, 0x14292967,
    0x27b70a85, 0x2e1b2138, 0x4d2c6dfc, 0x53380d13, 0x650a7354, 0x766a0abb, 0x81c2c92e, 0x92722c85,
    0xa2bfe8a1, 0xa81a664b, 0xc24b8b70, 0xc76c51a3, 0xd192e819, 0xd6990624, 0xf40e3585, 0x106aa070,
    0x19a4c116, 0x1e376c08, 0x2748774c, 0x34b0bcb5, 0x391c0cb3, 0x4ed8aa4a, 0x5b9cca4f, 0x682e6ff3,
    0x748f82ee, 0x78a5636f, 0x84c87814, 0x8cc70208, 0x90befffa, 0xa4506ceb, 0xbef9a3f7, 0xc67178f2]

def rotate (x n : UInt32) : UInt32 := (x >>> n) ||| (x <<< (32 - n))

/-- Appends message words until `n` more stand. -/
def extend (w : Array UInt32) : Nat → Array UInt32
  | 0 => w
  | n + 1 =>
    let t := w.size
    let x := w.getD (t - 15) 0
    let y := w.getD (t - 2) 0
    let s := rotate x 7 ^^^ rotate x 18 ^^^ (x >>> 3)
    let u := rotate y 17 ^^^ rotate y 19 ^^^ (y >>> 10)
    extend (w.push (w.getD (t - 16) 0 + s + w.getD (t - 7) 0 + u)) n

def State.round (s : State) (k w : UInt32) : State :=
  let ⟨a, b, c, d, e, f, g, h⟩ := s
  let u := h + (rotate e 6 ^^^ rotate e 11 ^^^ rotate e 25) + ((e &&& f) ^^^ (~~~e &&& g)) + k + w
  let v := (rotate a 2 ^^^ rotate a 13 ^^^ rotate a 22) + ((a &&& b) ^^^ (a &&& c) ^^^ (b &&& c))
  ⟨u + v, a, b, c, d + u, e, f, g⟩

def rounds (w : Array UInt32) (s : State) (t : Nat) : Nat → State
  | 0 => s
  | n + 1 => rounds w (s.round (roundConstants.getD t 0) (w.getD t 0)) (t + 1) n

def State.add (s t : State) : State :=
  ⟨s.a + t.a, s.b + t.b, s.c + t.c, s.d + t.d, s.e + t.e, s.f + t.f, s.g + t.g, s.h + t.h⟩

/-- Mixes one block of sixteen words into the state. -/
def State.mix (s : State) (block : List UInt32) : State :=
  s.add (rounds (extend block.toArray 48) s 0 64)

/-- Words of a byte string, highest byte first; bytes beyond the last whole word are dropped. -/
def words : Bytes → List UInt32
  | b0 :: b1 :: b2 :: b3 :: r =>
    (b0.toUInt32 <<< 24 ||| b1.toUInt32 <<< 16 ||| b2.toUInt32 <<< 8 ||| b3.toUInt32) :: words r
  | _ => []

def absorb (s : State) (ws : List UInt32) : State :=
  if _h : 16 ≤ ws.length then absorb (s.mix (ws.take 16)) (ws.drop 16) else s
termination_by ws.length
decreasing_by simp only [List.length_drop]; omega

/-- What is appended to a message of `n` bytes. -/
def padding (n : Nat) : Bytes :=
  0x80 :: List.replicate ((119 - n % 64) % 64) 0 ++ Bytes.ofNatBE 8 (8 * n)

def State.toBytes (s : State) : Bytes :=
  [s.a, s.b, s.c, s.d, s.e, s.f, s.g, s.h].flatMap fun w => Bytes.ofNatBE 4 w.toNat

/-- Ends a message of which `before` bytes, in whole blocks, are in the state already. -/
def finish (s : State) (before : Nat) (rest : Bytes) : Bytes :=
  (absorb s (words (rest ++ padding (before + rest.length)))).toBytes

def digest (message : Bytes) : Bytes := finish initial 0 message

theorem length_digest (message : Bytes) : (digest message).length = 32 := by
  simp [digest, finish, State.toBytes, Bytes.length_ofNatBE]

end LedgerClient.Sha256
