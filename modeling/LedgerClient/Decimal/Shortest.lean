import LedgerClient.Text.Numeral

/-!
Text of a binary fraction: the fewest digits that read back as the same number and, of those, the
nearest. `Layout` fixes where positional notation ends.
-/

namespace LedgerClient.Decimal

/-- A finite magnitude `m · 2 ^ q`, with the ends of the interval that rounds to it in quarters of
its last place. -/
structure Magnitude where
  m : Nat
  q : Int
  lowQuarters : Nat

namespace Magnitude

/-- Splits a bit pattern; `none` for infinities and what is no number. -/
def ofBits? (bits : Nat) : Option Magnitude :=
  let e : Nat := bits / Nat.pow 2 52 % Nat.pow 2 11
  let f := bits % Nat.pow 2 52
  if e = 2047 then none
  else if e = 0 then some ⟨f, -1074, 4 * f - 2⟩
  else
    let m := Nat.pow 2 52 + f
    some ⟨m, (e : Int) - 1075, if f = 0 ∧ 1 < e then 4 * m - 1 else 4 * m - 2⟩

/-- Factors that bring `c · 10 ^ p` and quarters of the last place to one unit. -/
def factors (v : Magnitude) (p : Int) : Nat × Nat :=
  let s := v.q - 2
  (Nat.pow 10 p.toNat * Nat.pow 2 (-s).toNat, Nat.pow 2 s.toNat * Nat.pow 10 (-p).toNat)

/-- `c · 10 ^ p` reads back as this magnitude. -/
def readsBack (v : Magnitude) (c : Nat) (p : Int) : Bool :=
  let (a, b) := v.factors p
  let lo := v.lowQuarters * b
  let hi := (4 * v.m + 2) * b
  if v.m % 2 = 0 then lo ≤ c * a && c * a ≤ hi else lo < c * a && c * a < hi

/-- The nearer neighbour on the grid of multiples of `10 ^ p`, an exact tie going to the even one,
if a neighbour reads back. -/
def onGrid? (v : Magnitude) (p : Int) : Option Nat :=
  let (a, b) := v.factors p
  let x := 4 * v.m * b
  let c := x / a
  let below := v.readsBack c p
  let above := v.readsBack (c + 1) p
  if below && above then
    let twice := 2 * (x % a)
    some (if twice < a then c else if a < twice then c + 1 else if c % 2 = 0 then c else c + 1)
  else if below then some c
  else if above then some (c + 1)
  else none

/-- The least `k` from a start with `v < 10 ^ k`. -/
def decimalPoint (v : Magnitude) : Nat → Int → Int
  | 0, k => k
  | fuel + 1, k =>
    let (a, b) := v.factors k
    if 4 * v.m * b < a then k else decimalPoint v fuel (k + 1)

/-- Digits and the place of the point before them, from the coarsest grid with a hit. -/
def shortestFrom (v : Magnitude) (k : Int) : Nat → Nat → List Char × Int
  | 0, _ => ([], 0)
  | fuel + 1, n => match v.onGrid? (k - n) with
    | some c =>
      let ds := Nat.toDigits 10 c
      let kept := (ds.reverse.dropWhile (· == '0')).reverse
      (kept, (ds.length : Int) + (k - n))
    | none => shortestFrom v k fuel (n + 1)

def shortest (v : Magnitude) : List Char × Int :=
  if v.m = 0 then (['0'], 1) else shortestFrom v (v.decimalPoint 640 (-325)) 20 1

end Magnitude

/-- Values with the point after place `lowest` and up to place `highest` are written in full, the
others with an exponent of at least `exponentDigits` digits and a sign. -/
structure Layout where
  lowest : Int
  highest : Int
  exponentDigits : Nat

def Layout.render (l : Layout) (ds : List Char) (point : Int) : List Char :=
  if l.lowest < point ∧ point ≤ l.highest then
    if point ≤ 0 then '0' :: '.' :: List.replicate (-point).toNat '0' ++ ds
    else if ds.length ≤ point.toNat then
      ds ++ List.replicate (point.toNat - ds.length) '0' ++ ['.', '0']
    else ds.take point.toNat ++ '.' :: ds.drop point.toNat
  else
    let e := point - 1
    let mantissa := match ds with
      | [] => []
      | [d] => [d]
      | d :: r => d :: '.' :: r
    mantissa ++ 'e' :: (if e < 0 then '-' else '+')
      :: Text.paddedDigits l.exponentDigits e.natAbs

/-- Fractions below one ten-thousandth and from ten to the sixteenth have an exponent. -/
def plainLayout : Layout := ⟨-4, 16, 2⟩

/-- Text of a finite float. -/
def finiteText? (f : Float) : Option String :=
  let bits := f.toBits.toNat
  (Magnitude.ofBits? bits).map fun v =>
    let (ds, point) := v.shortest
    let sign := if bits / Nat.pow 2 63 % 2 = 1 then ['-'] else []
    String.ofList (sign ++ plainLayout.render ds point)

end LedgerClient.Decimal
