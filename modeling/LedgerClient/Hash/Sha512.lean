import LedgerClient.Bytes.Basic

/-!
The SHA-512 digest. A message is padded to whole blocks of 128 bytes, which are mixed into a
state of eight words one after the other.
-/

namespace LedgerClient.Sha512

structure State where
  a : UInt64
  b : UInt64
  c : UInt64
  d : UInt64
  e : UInt64
  f : UInt64
  g : UInt64
  h : UInt64

def initial : State :=
  ⟨0x6a09e667f3bcc908, 0xbb67ae8584caa73b, 0x3c6ef372fe94f82b, 0xa54ff53a5f1d36f1,
    0x510e527fade682d1, 0x9b05688c2b3e6c1f, 0x1f83d9abfb41bd6b, 0x5be0cd19137e2179⟩

def roundConstants : Array UInt64 :=
  #[0x428a2f98d728ae22, 0x7137449123ef65cd, 0xb5c0fbcfec4d3b2f, 0xe9b5dba58189dbbc,
    0x3956c25bf348b538, 0x59f111f1b605d019, 0x923f82a4af194f9b, 0xab1c5ed5da6d8118,
    0xd807aa98a3030242, 0x12835b0145706fbe, 0x243185be4ee4b28c, 0x550c7dc3d5ffb4e2,
    0x72be5d74f27b896f, 0x80deb1fe3b1696b1, 0x9bdc06a725c71235, 0xc19bf174cf692694,
    0xe49b69c19ef14ad2, 0xefbe4786384f25e3, 0x0fc19dc68b8cd5b5, 0x240ca1cc77ac9c65,
    0x2de92c6f592b0275, 0x4a7484aa6ea6e483, 0x5cb0a9dcbd41fbd4, 0x76f988da831153b5,
    0x983e5152ee66dfab, 0xa831c66d2db43210, 0xb00327c898fb213f, 0xbf597fc7beef0ee4,
    0xc6e00bf33da88fc2, 0xd5a79147930aa725, 0x06ca6351e003826f, 0x142929670a0e6e70,
    0x27b70a8546d22ffc, 0x2e1b21385c26c926, 0x4d2c6dfc5ac42aed, 0x53380d139d95b3df,
    0x650a73548baf63de, 0x766a0abb3c77b2a8, 0x81c2c92e47edaee6, 0x92722c851482353b,
    0xa2bfe8a14cf10364, 0xa81a664bbc423001, 0xc24b8b70d0f89791, 0xc76c51a30654be30,
    0xd192e819d6ef5218, 0xd69906245565a910, 0xf40e35855771202a, 0x106aa07032bbd1b8,
    0x19a4c116b8d2d0c8, 0x1e376c085141ab53, 0x2748774cdf8eeb99, 0x34b0bcb5e19b48a8,
    0x391c0cb3c5c95a63, 0x4ed8aa4ae3418acb, 0x5b9cca4f7763e373, 0x682e6ff3d6b2b8a3,
    0x748f82ee5defb2fc, 0x78a5636f43172f60, 0x84c87814a1f0ab72, 0x8cc702081a6439ec,
    0x90befffa23631e28, 0xa4506cebde82bde9, 0xbef9a3f7b2c67915, 0xc67178f2e372532b,
    0xca273eceea26619c, 0xd186b8c721c0c207, 0xeada7dd6cde0eb1e, 0xf57d4f7fee6ed178,
    0x06f067aa72176fba, 0x0a637dc5a2c898a6, 0x113f9804bef90dae, 0x1b710b35131c471b,
    0x28db77f523047d84, 0x32caab7b40c72493, 0x3c9ebe0a15c9bebc, 0x431d67c49c100d4c,
    0x4cc5d4becb3e42b6, 0x597f299cfc657e2a, 0x5fcb6fab3ad6faec, 0x6c44198c4a475817]

def rotate (x n : UInt64) : UInt64 := (x >>> n) ||| (x <<< (64 - n))

/-- Appends message words until `n` more stand. -/
def extend (w : Array UInt64) : Nat → Array UInt64
  | 0 => w
  | n + 1 =>
    let t := w.size
    let x := w.getD (t - 15) 0
    let y := w.getD (t - 2) 0
    let s := rotate x 1 ^^^ rotate x 8 ^^^ (x >>> 7)
    let u := rotate y 19 ^^^ rotate y 61 ^^^ (y >>> 6)
    extend (w.push (w.getD (t - 16) 0 + s + w.getD (t - 7) 0 + u)) n

def State.round (s : State) (k w : UInt64) : State :=
  let ⟨a, b, c, d, e, f, g, h⟩ := s
  let u := h + (rotate e 14 ^^^ rotate e 18 ^^^ rotate e 41) + ((e &&& f) ^^^ (~~~e &&& g)) + k + w
  let v := (rotate a 28 ^^^ rotate a 34 ^^^ rotate a 39) + ((a &&& b) ^^^ (a &&& c) ^^^ (b &&& c))
  ⟨u + v, a, b, c, d + u, e, f, g⟩

def rounds (w : Array UInt64) (s : State) (t : Nat) : Nat → State
  | 0 => s
  | n + 1 => rounds w (s.round (roundConstants.getD t 0) (w.getD t 0)) (t + 1) n

def State.add (s t : State) : State :=
  ⟨s.a + t.a, s.b + t.b, s.c + t.c, s.d + t.d, s.e + t.e, s.f + t.f, s.g + t.g, s.h + t.h⟩

/-- Mixes one block of sixteen words into the state. -/
def State.mix (s : State) (block : List UInt64) : State :=
  s.add (rounds (extend block.toArray 64) s 0 80)

/-- Words of a byte string, highest byte first; bytes beyond the last whole word are dropped. -/
def words : Bytes → List UInt64
  | b0 :: b1 :: b2 :: b3 :: b4 :: b5 :: b6 :: b7 :: r =>
    (b0.toUInt64 <<< 56 ||| b1.toUInt64 <<< 48 ||| b2.toUInt64 <<< 40 ||| b3.toUInt64 <<< 32
      ||| b4.toUInt64 <<< 24 ||| b5.toUInt64 <<< 16 ||| b6.toUInt64 <<< 8 ||| b7.toUInt64)
      :: words r
  | _ => []

def absorb (s : State) (ws : List UInt64) : State :=
  if _h : 16 ≤ ws.length then absorb (s.mix (ws.take 16)) (ws.drop 16) else s
termination_by ws.length
decreasing_by simp only [List.length_drop]; omega

/-- What is appended to a message of `n` bytes. -/
def padding (n : Nat) : Bytes :=
  0x80 :: List.replicate ((239 - n % 128) % 128) 0 ++ Bytes.ofNatBE 16 (8 * n)

def State.toBytes (s : State) : Bytes :=
  [s.a, s.b, s.c, s.d, s.e, s.f, s.g, s.h].flatMap fun w => Bytes.ofNatBE 8 w.toNat

/-- Ends a message of which `before` bytes, in whole blocks, are in the state already. -/
def finish (s : State) (before : Nat) (rest : Bytes) : Bytes :=
  (absorb s (words (rest ++ padding (before + rest.length)))).toBytes

def digest (message : Bytes) : Bytes := finish initial 0 message

theorem length_digest (message : Bytes) : (digest message).length = 64 := by
  simp [digest, finish, State.toBytes, Bytes.length_ofNatBE]

end LedgerClient.Sha512
