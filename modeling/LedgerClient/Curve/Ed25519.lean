import LedgerClient.Curve.Field
import LedgerClient.Hash.Sha512

/-!
Signatures on the twisted Edwards curve over the field of order `2 ^ 255 - 19`. Signing is
deterministic. Verification recomputes the commitment and compares encodings, without clearing the
cofactor.
-/

namespace LedgerClient.Ed25519

def p : Nat := Nat.pow 2 255 - 19

/-- The order of the base point. -/
def order : Nat := Nat.pow 2 252 + 27742317777372353535851937790883648493

def d : Nat := 37095705934669439343138083508754565189542113879843219016388785533085940283555

/-- Extended coordinates: `x = X / Z`, `y = Y / Z` and `x * y = T / Z`. -/
structure Point where
  x : Nat
  y : Nat
  z : Nat
  t : Nat

def Point.zero : Point := ⟨0, 1, 1, 0⟩

def Point.ofAffine (x y : Nat) : Point := ⟨x, y, 1, x * y % p⟩

def base : Point := .ofAffine
  15112221349535400772501151409588531511454012693041857206046113283949847762202
  46316835694926478169428394003475163141307993866256225615783033603165251855960

def Point.add (u v : Point) : Point :=
  let a := Field.sub p u.y u.x * Field.sub p v.y v.x % p
  let b := (u.y + u.x) * (v.y + v.x) % p
  let c := u.t * (2 * d % p) % p * v.t % p
  let e := u.z * 2 * v.z % p
  let f := Field.sub p b a
  let g := Field.sub p e c
  let h := (e + c) % p
  let k := (b + a) % p
  ⟨f * g % p, h * k % p, g * h % p, f * k % p⟩

def Point.double (u : Point) : Point :=
  let a := u.x * u.x % p
  let b := u.y * u.y % p
  let c := 2 * u.z * u.z % p
  let h := (a + b) % p
  let e := Field.sub p h ((u.x + u.y) * (u.x + u.y) % p)
  let g := Field.sub p a b
  let f := (c + g) % p
  ⟨e * f % p, g * h % p, f * g % p, e * h % p⟩

def Point.neg (u : Point) : Point := ⟨Field.sub p 0 u.x, u.y, u.z, Field.sub p 0 u.t⟩

def Point.scale (n : Nat) (u : Point) : Point := Field.scale Point.double Point.add u n 256 .zero

def Point.encode (u : Point) : Bytes :=
  let zi := Field.inv p u.z
  let x := u.x * zi % p
  let y := u.y * zi % p
  Bytes.ofNatLE 32 (y + x % 2 * Nat.pow 2 255)

/-- A square root modulo the prime, where there is one. -/
def root? (a : Nat) : Option Nat :=
  let r := Field.pow p a ((p + 3) / 8)
  if r * r % p = a % p then some r
  else
    let s := r * Field.pow p 2 ((p - 1) / 4) % p
    if s * s % p = a % p then some s else none

/-- The point of an encoding; the ordinate may be given unreduced. -/
def decode? (bs : Bytes) : Option Point := do
  let n := Bytes.toNatLE bs
  let y := n % Nat.pow 2 255 % p
  let y2 := y * y % p
  let x ← root? (Field.sub p y2 1 * Field.inv p (d * y2 + 1) % p)
  let odd := n / Nat.pow 2 255 % 2
  return .ofAffine (if x % 2 = odd then x else Field.sub p 0 x) y

/-- The secret scalar of a seed, and the second half of its digest. -/
def expand (seed : Bytes) : Nat × Bytes :=
  let h := Sha512.digest seed
  let n := Bytes.toNatLE (h.take 32)
  (Nat.pow 2 254 + n % Nat.pow 2 254 / 8 * 8, h.drop 32)

def publicKey (seed : Bytes) : Bytes := (base.scale (expand seed).1).encode

def challenge (commitment key message : Bytes) : Nat :=
  Bytes.toNatLE (Sha512.digest (commitment ++ key ++ message)) % order

def sign (seed message : Bytes) : Bytes :=
  let (a, nonceKey) := expand seed
  let key := (base.scale a).encode
  let r := Bytes.toNatLE (Sha512.digest (nonceKey ++ message)) % order
  let commitment := (base.scale r).encode
  commitment ++ Bytes.ofNatLE 32 ((r + challenge commitment key message * a) % order)

def verify (key signature message : Bytes) : Bool :=
  let s := Bytes.toNatLE (signature.drop 32)
  let commitment := signature.take 32
  if order ≤ s then false
  else match decode? key with
    | none => false
    | some a =>
      let h := challenge commitment key message
      ((base.scale s).add (a.neg.scale h)).encode == commitment

theorem length_encode (u : Point) : u.encode.length = 32 := Bytes.length_ofNatLE _ _

theorem length_publicKey (seed : Bytes) : (publicKey seed).length = 32 := length_encode _

theorem length_sign (seed message : Bytes) : (sign seed message).length = 64 := by
  simp [sign, length_encode, Bytes.length_ofNatLE]

end LedgerClient.Ed25519
