import LedgerClient.Hash.Sha512

/-!
Keyed digests over SHA-512, and the slow stretching of a passphrase with them.
-/

namespace LedgerClient.Keyed

/-- The states of the inner and outer digest behind their key blocks. -/
structure Key where
  inner : Sha512.State
  outer : Sha512.State

def keyBlock (key : Bytes) : Bytes :=
  let k := if 128 < key.length then Sha512.digest key else key
  k ++ List.replicate (128 - k.length) 0

def Key.ofBytes (key : Bytes) : Key :=
  let block := keyBlock key
  let started (pad : UInt8) := Sha512.absorb Sha512.initial (Sha512.words (block.map (· ^^^ pad)))
  ⟨started 0x36, started 0x5c⟩

def Key.digest (k : Key) (message : Bytes) : Bytes :=
  Sha512.finish k.outer 128 (Sha512.finish k.inner 128 message)

def digest (key message : Bytes) : Bytes := (Key.ofBytes key).digest message

def xorBytes (a b : Bytes) : Bytes := List.zipWith (· ^^^ ·) a b

/-- Applies the keyed digest `n` more times to `last` and sums all results. -/
def stretchFrom (k : Key) (last sum : Bytes) : Nat → Bytes
  | 0 => sum
  | n + 1 =>
    let next := k.digest last
    stretchFrom k next (xorBytes sum next) n

/-- 64 bytes from a password and a salt, by `rounds` keyed digests. -/
def stretch (password salt : Bytes) (rounds : Nat) : Bytes :=
  let k := Key.ofBytes password
  let first := k.digest (salt ++ [0, 0, 0, 1])
  stretchFrom k first first (rounds - 1)

end LedgerClient.Keyed
