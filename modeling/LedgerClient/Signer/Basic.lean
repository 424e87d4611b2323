import LedgerClient.Account
import LedgerClient.Seed.Phrase
import LedgerClient.Value.Record

/-!
Signers act for one account with one or more keys. Keys are claimed in turn, one for each
operation, and the claimed key is both the one that signs and the one that is named.
-/

namespace LedgerClient

/-- Where the keys of a signer come from. -/
inductive Signer.Source where
  | memory
  | rotation
  | file (path : String)
  | environment
  | keyring

structure Signer where
  account : AccountId
  keys : List KeyPair
  source : Signer.Source
  keys_ne_nil : keys ≠ []

namespace Signer

/-- The key of a turn; turns are counted from zero. -/
def key (s : Signer) (turn : Nat) : KeyPair :=
  s.keys.get ⟨turn % s.keys.length, Nat.mod_lt _ (List.length_pos_iff.2 s.keys_ne_nil)⟩

def publicKeys (s : Signer) : List PublicKey := s.keys.map (·.publicKey)

def ofKey (account : AccountId) (k : SecretKey) (source : Source) : Signer :=
  ⟨account, [KeyPair.ofSecret k], source, by simp⟩

def inMemory (account key : Value) : Except Error Signer := do
  let a ← AccountId.ofValue account
  return ofKey a (← SecretKey.ofValue key) .memory

/-- A signer for a key that is at hand already. -/
def ofKeyPair (account : Value) (k : KeyPair) : Except Error Signer := do
  return ofKey (← AccountId.ofValue account) k.secret .memory

def ofPhrase (account : Value) (phrase passphrase : String) (path : Option String) :
    Except Error Signer := do
  ofKeyPair account (← Seed.keyPair phrase passphrase path)

def rotating (account : Value) (keys : List Value) : Except Error Signer := do
  if keys.isEmpty then throw (.plain .config "RotatingSigner requires at least one key")
  let a ← AccountId.ofValue account
  match ← keys.mapM SecretKey.ofValue with
  | [] => throw (.plain .config "RotatingSigner requires at least one key")
  | k :: ks => return ⟨a, (k :: ks).map KeyPair.ofSecret, .rotation, by simp⟩

/-- A signer from a record that names an account and says where its keys come from. -/
def ofRecord (ms : Members) : Except Error Signer := do
  let account := ms.get "account"
  match ms.word "type" with
  | "rotating" => rotating account (ms.items "keys")
  | "phrase" => ofPhrase account (ms.word "phrase") (ms.word "passphrase") (ms.get "hd_path").text?
  | "random" => ofKeyPair account (KeyPair.ofSecret (← SecretKey.ofBytes (ms.hex "random")))
  | _ => inMemory account (ms.get "key")

/-- Shows the account and the key of the next turn, or what else tells signers apart. -/
def display (s : Signer) (turn : Nat) : String :=
  let front := "(account_id=" ++ s.account.display ++ ", "
  let keyPart := "public_key=" ++ (s.key turn).publicKey.text ++ ")"
  match s.source with
  | .memory => "InMemorySigner" ++ front ++ keyPart
  | .rotation =>
    "RotatingSigner" ++ front ++ "key_count=" ++ Text.natText s.keys.length ++ ")"
  | .file path => "FileSigner" ++ front ++ "path=" ++ Text.quoted path ++ ")"
  | .environment => "EnvSigner" ++ front ++ keyPart
  | .keyring => "KeyringSigner" ++ front ++ keyPart

/-- A key as it is shown once claimed. -/
def claimText (k : KeyPair) : String := "ClaimedKey(" ++ k.publicKey.text ++ ")"

end Signer

end LedgerClient
