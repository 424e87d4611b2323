import LedgerClient.Curve.Field
import LedgerClient.Bytes.Basic

/-!
Verification of signatures on the curve `y ^ 2 = x ^ 3 + 7` over the field of order
`2 ^ 256 - 2 ^ 32 - 977`. Public keys are compressed points.
-/

namespace LedgerClient.Secp256k1

def p : Nat := Nat.pow 2 256 - Nat.pow 2 32 - 977

/-- The order of the base point. -/
def order : Nat := 0xFFFFFFFFFFFFFFFFFFFFFFFFFFFFFFFEBAAEDCE6AF48A03BBFD25E8CD0364141

/-- Jacobian coordinates: `x = X / Z ^ 2` and `y = Y / Z ^ 3`; the point at infinity has `Z = 0`. -/
structure Point where
  x : Nat
  y : Nat
  z : Nat

def Point.zero : Point := ⟨1, 1, 0⟩

def base : Point :=
  ⟨0x79BE667EF9DCBBAC55A06295CE870B07029BFCDB2DCE28D959F2815B16F81798,
    0x483ADA7726A3C4655DA4FBFC0E1108A8FD17B448A68554199C47D08FFB10D4B8, 1⟩

def Point.double (u : Point) : Point :=
  let y2 := u.y * u.y % p
  let s := 4 * u.x * y2 % p
  let m := 3 * u.x * u.x % p
  let x := Field.sub p (m * m % p) (2 * s % p)
  let y := Field.sub p (m * Field.sub p s x % p) (8 * y2 * y2 % p)
  ⟨x, y, 2 * u.y * u.z % p⟩

def Point.add (u v : Point) : Point :=
  if u.z = 0 then v
  else if v.z = 0 then u
  else
    let uz := u.z * u.z % p
    let vz := v.z * v.z % p
    let a := u.x * vz % p
    let b := v.x * uz % p
    let c := u.y * vz % p * v.z % p
    let e := v.y * uz % p * u.z % p
    if a = b then (if c = e then u.double else .zero)
    else
      let h := Field.sub p b a
      let r := Field.sub p e c
      let h2 := h * h % p
      let h3 := h2 * h % p
      let w := a * h2 % p
      let x := Field.sub p (Field.sub p (r * r % p) h3) (2 * w % p)
      let y := Field.sub p (r * Field.sub p w x % p) (c * h3 % p)
      ⟨x, y, u.z * v.z % p * h % p⟩

def Point.scale (n : Nat) (u : Point) : Point := Field.scale Point.double Point.add u n 256 .zero

/-- The point at infinity has no abscissa. -/
def Point.abscissa? (u : Point) : Option Nat :=
  if u.z = 0 then none
  else
    let zi := Field.inv p u.z
    some (u.x * (zi * zi % p) % p)

/-- The point of a compressed encoding. -/
def decode? : Bytes → Option Point
  | [] => none
  | tag :: r =>
    let x := Bytes.toNatBE r
    let a := (x * x % p * x + 7) % p
    let y := Field.pow p a ((p + 1) / 4)
    if (tag ≠ 2 ∧ tag ≠ 3) ∨ r.length ≠ 32 ∨ p ≤ x ∨ y * y % p ≠ a then none
    else some ⟨x, if y % 2 = tag.toNat % 2 then y else p - y, 1⟩

def isValidKey (key : Bytes) : Bool := (decode? key).isSome

/-- Checks the first 64 bytes of a signature over a digest of 32 bytes. There is no answer where
the point to compare with lies at infinity. -/
def verify (key signature digest : Bytes) : Option Bool :=
  if signature.length ≠ 65 ∨ digest.length ≠ 32 then some false
  else match decode? key with
    | none => some false
    | some q =>
      let r := Bytes.toNatBE (signature.take 32)
      let s := Bytes.toNatBE ((signature.drop 32).take 32)
      if r = 0 ∨ order ≤ r ∨ s = 0 ∨ order ≤ s then some false
      else
        let w := Field.inv order s
        let u := Bytes.toNatBE digest * w % order
        let v := r * w % order
        ((base.scale u).add (q.scale v)).abscissa?.map fun x => x % order == r

end LedgerClient.Secp256k1
