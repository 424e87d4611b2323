import LedgerClient.Bytes.Basic

/-!
The Keccak-256 digest with the padding byte `01`. The state is 25 lanes of 64 bits, lane
`x + 5 y` standing at column `x` and row `y`.
-/

namespace LedgerClient.Keccak

abbrev Lanes := Array UInt64

def roundConstants : List UInt64 :=
  [0x0000000000000001, 0x0000000000008082, 0x800000000000808a, 0x8000000080008000,
    0x000000000000808b, 0x0000000080000001, 0x8000000080008081, 0x8000000000008009,
    0x000000000000008a, 0x0000000000000088, 0x0000000080008009, 0x000000008000000a,
    0x000000008000808b, 0x800000000000008b, 0x8000000000008089, 0x8000000000008003,
    0x8000000000008002, 0x8000000000000080, 0x000000000000800a, 0x800000008000000a,
    0x8000000080008081, 0x8000000000008080, 0x0000000080000001, 0x8000000080008008]

def rotations : Array UInt64 :=
  #[0, 1, 62, 28, 27, 36, 44, 6, 55, 20, 3, 10, 43, 25, 39, 41, 45, 15, 21, 8, 18, 2, 61, 56, 14]

def rotate (x n : UInt64) : UInt64 := if n = 0 then x else (x <<< n) ||| (x >>> (64 - n))

def lane (s : Lanes) (i : Nat) : UInt64 := s.getD i 0

def ofLanes (f : Nat → UInt64) : Lanes := (Array.range 25).map f

def parity (s : Lanes) (x : Nat) : UInt64 :=
  lane s x ^^^ lane s (x + 5) ^^^ lane s (x + 10) ^^^ lane s (x + 15) ^^^ lane s (x + 20)

/-- Adds the parities of the two neighbouring columns to each lane. -/
def spread (s : Lanes) : Lanes :=
  let c := (Array.range 5).map (parity s)
  ofLanes fun i => lane s i ^^^ c.getD ((i + 4) % 5) 0 ^^^ rotate (c.getD ((i + 1) % 5) 0) 1

/-- Rotates every lane and moves it to its new place. -/
def move (s : Lanes) : Lanes :=
  ofLanes fun i =>
    let x := i % 5
    let y := i / 5
    let source := (x + 3 * y) % 5 + 5 * x
    rotate (lane s source) (rotations.getD source 0)

/-- Combines each lane with the next two of its row. -/
def combine (s : Lanes) : Lanes :=
  ofLanes fun i =>
    let row := i / 5 * 5
    lane s i ^^^ (~~~lane s (row + (i + 1) % 5) &&& lane s (row + (i + 2) % 5))

def round (s : Lanes) (k : UInt64) : Lanes :=
  let t := combine (move (spread s))
  t.setIfInBounds 0 (lane t 0 ^^^ k)

def permute (s : Lanes) : Lanes := roundConstants.foldl round s

def words : Bytes → List UInt64
  | b0 :: b1 :: b2 :: b3 :: b4 :: b5 :: b6 :: b7 :: r =>
    UInt64.ofNat (Bytes.toNatLE [b0, b1, b2, b3, b4, b5, b6, b7]) :: words r
  | _ => []

def mix (s : Lanes) (block : List UInt64) : Lanes :=
  permute (ofLanes fun i => lane s i ^^^ block.getD i 0)

def absorb (s : Lanes) (ws : List UInt64) : Lanes :=
  if _h : 17 ≤ ws.length then absorb (mix s (ws.take 17)) (ws.drop 17) else s
termination_by ws.length
decreasing_by simp only [List.length_drop]; omega

/-- What is appended to a message of `n` bytes to fill blocks of 136. -/
def padding (n : Nat) : Bytes :=
  if n % 136 = 135 then [0x81] else 0x01 :: List.replicate (134 - n % 136) 0 ++ [0x80]

def digest (message : Bytes) : Bytes :=
  let s := absorb (ofLanes fun _ => 0) (words (message ++ padding message.length))
  (List.range 4).flatMap fun i => Bytes.ofNatLE 8 (lane s i).toNat

theorem length_digest (message : Bytes) : (digest message).length = 32 := by
  simp [digest, Bytes.length_ofNatLE, List.range_succ]

end LedgerClient.Keccak
