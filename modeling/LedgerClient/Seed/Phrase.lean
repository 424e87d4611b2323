import LedgerClient.Seed.Words
import LedgerClient.Seed.Path
import LedgerClient.Text.Casing
import LedgerClient.Text.Decomposition
import LedgerClient.Hash.Sha256
import LedgerClient.Key.Basic

/-!
Seed phrases. Entropy followed by the first bits of its digest is written in base 2048, a word for
each digit; reading a phrase checks those bits. A phrase and a passphrase are stretched to a seed.
-/

namespace LedgerClient.Seed

def wordCounts : List Nat := [12, 15, 18, 21, 24]

/-- Lowercase, with one space between words and none around. -/
def normalize (phrase : String) : String :=
  " ".intercalate (Text.fields (Text.lower (Text.strip phrase)))

/-- The first `bits` bits of the digest of the entropy, of eight at most. -/
def checksum (entropy : Bytes) (bits : Nat) : Nat :=
  ((Sha256.digest entropy).headD 0).toNat / Nat.pow 2 (8 - bits)

/-- The phrase of some entropy: three words for every four bytes. -/
def ofEntropy (entropy : Bytes) : String :=
  let bits := entropy.length / 4
  let n := Bytes.toNatBE entropy * Nat.pow 2 bits + checksum entropy bits
  " ".intercalate ((Positional.fixed 2048 (3 * bits) n).map wordAt)

/-- The entropy of word indexes whose last bits agree with its digest. -/
def entropyOf? (indexes : List Nat) : Option Bytes :=
  let bits := indexes.length / 3
  let n := Positional.value 2048 indexes
  let entropy := Bytes.ofNatBE (4 * bits) (n / Nat.pow 2 bits)
  if checksum entropy bits = n % Nat.pow 2 bits then some entropy else none

/-- The entropy that a phrase spells, if it is of words of the list, of a right number of them, and
with the right last bits. -/
def entropy? (phrase : String) : Option Bytes := do
  let ws := (Text.splitOn (· == ' ') (Text.decompose phrase).toList).map String.ofList
  if !wordCounts.contains ws.length then none
  else entropyOf? (← ws.mapM wordIndex?)

/-- The number of words between single spaces. -/
def countWords (normal : String) : Nat :=
  if normal == "" then 0 else (Text.splitOn (· == ' ') normal.toList).length

def invalid (message : String) : Error := .plain .seedPhrase message

/-- 64 bytes from a valid phrase and a passphrase. -/
def ofPhrase (phrase passphrase : String) : Except Error Bytes :=
  let normal := normalize phrase
  let n := countWords normal
  if !wordCounts.contains n then
    .error (invalid ("Seed phrase must have 12, 15, 18, 21 or 24 words, got " ++ Text.natText n))
  else if (entropy? normal).isNone then
    .error (invalid "Seed phrase checksum mismatch or unknown words")
  else
    .ok (Keyed.stretch (Utf8.encode (Text.decompose normal))
      (Utf8.encode ("mnemonic" ++ Text.decompose passphrase)) 2048)

def secretKey (phrase passphrase path : String) : Except Error SecretKey := do
  let seed ← ofPhrase phrase passphrase
  SecretKey.ofBytes (← derive seed path)

/-- A missing or empty path stands for the standard one. -/
def keyPair (phrase passphrase : String) (path : Option String) : Except Error KeyPair :=
  let chosen := match path with
    | some p => if p == "" then standardPath else p
    | none => standardPath
  (secretKey phrase passphrase chosen).map KeyPair.ofSecret

/-- A new phrase of as many words as wanted, from the first bytes of some entropy, and its key. -/
def generate (wordCount : Value) (entropy : Bytes) (passphrase path : String) :
    Except Error (String × KeyPair) :=
  match wordCount.number? with
  | some n =>
    if !wordCounts.contains n.toNat then .error (refused wordCount)
    else match wordCount with
      | .int _ => do
        let phrase := ofEntropy (entropy.take (n.toNat * 4 / 3))
        return (phrase, KeyPair.ofSecret (← secretKey phrase passphrase path))
      | _ => .error .wrongKind
  | none => .error (refused wordCount)
where
  refused (v : Value) : Error :=
    invalid ("Word count must be one of (12, 15, 18, 21, 24), got " ++ v.display)

end LedgerClient.Seed
