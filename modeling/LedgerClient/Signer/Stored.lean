import LedgerClient.Files.Tree
import LedgerClient.Signer.Credential

/-!
Signers whose key is looked up when they are made: in a credentials file, in the environment, or
in the keyring of the system.
-/

namespace LedgerClient

namespace Credential

def standardDirectory : String := "~/.near-credentials"

/-- The file of an account on a network, below a directory or the standard one. -/
def path (home network account : String) (directory : Option String) :
    Except Error Files.Path := do
  let chosen := match directory with
    | some d => if d == "" then standardDirectory else d
    | none => standardDirectory
  let base ← (Files.Path.ofText chosen).expand home
  return (base.join (.ofText network)).join (.ofText (account ++ ".json"))

def readFile (t : Files.Tree) (p : Files.Path) : Except Error SecretKey :=
  match t.read p with
  | .error .missing => .error (.plain .keyMissing ("Credentials file not found: " ++ p.text))
  | .error .unreadable =>
    .error (malformed ("Failed to read credentials file " ++ p.text))
  | .ok bs => match Utf8.decode? bs with
    | some content => parse content p.text
    | none => .error (.host .notUtf8)

end Credential

namespace Signer

/-- The signer for a file at a path that may start at the home directory. -/
def ofFileAt (t : Files.Tree) (home : String) (account : AccountId) (path : Files.Path) :
    Except Error Signer := do
  let p ← path.expand home
  return ofKey account (← Credential.readFile t p) (.file p.text)

def ofFile (t : Files.Tree) (home path : String) (account : Value) : Except Error Signer := do
  ofFileAt t home (← AccountId.ofValue account) (.ofText path)

def ofCredentials (t : Files.Tree) (home network : String) (account : Value)
    (directory : Option String) : Except Error Signer := do
  let a ← AccountId.ofValue account
  ofFileAt t home a (← Credential.path home network a.text directory)

def setting (environment : List (String × String)) (name : String) : Except Error String :=
  match environment.lookup name with
  | some "" | none =>
    .error (.plain .keyMissing ("Environment variable " ++ name ++ " not set"))
  | some v => .ok v

def ofEnvironment (environment : List (String × String)) (accountName keyName : String) :
    Except Error Signer := do
  let account ← setting environment accountName
  let text ← setting environment keyName
  let k ← Credential.keyOfText ("Invalid key in environment variable " ++ keyName) text
  return ofKey (← AccountId.parse account) k .environment

end Signer

/-- What a keyring is asked for. -/
structure KeyringEntry where
  account : AccountId
  publicKey : PublicKey
  service : String
  user : String

namespace KeyringEntry

def make (network : String) (account key : Value) : Except Error KeyringEntry := do
  let a ← AccountId.ofValue account
  let k ← PublicKey.ofValue key
  return ⟨a, k, "near-" ++ network ++ "-" ++ a.text, a.text ++ ":" ++ k.text⟩

/-- The signer for what the keyring answered: nothing, a record, or the text of its own error. -/
def signer (e : KeyringEntry) : Except String (Option String) → Except Error Signer
  | .error reason =>
    .error (.plain .platform ("Failed to read from keyring: " ++ reason
      ++ ". On Linux, ensure a Secret Service daemon (gnome-keyring, kwallet) is running."))
  | .ok none =>
    .error (.client .keyMissing ("No keyring entry for " ++ e.account.text)
      [("service", .text e.service), ("username", .text e.user)] none)
  | .ok (some content) => do
    let k ← Credential.parse content ("keyring entry " ++ e.service)
    if k.publicKey = e.publicKey then return Signer.ofKey e.account k .keyring
    else throw (Credential.malformed ("Public key mismatch: stored key has " ++ k.publicKey.text
      ++ ", but requested " ++ e.publicKey.text))

end KeyringEntry

/-- What a keyring answers for a service and a user. -/
abbrev Keyring := String → String → Except String (Option String)

/-- The signer for the key that a keyring holds for an account under a public key. -/
def Signer.ofKeyring (keyring : Keyring) (network : String) (account key : Value) :
    Except Error Signer := do
  let e ← KeyringEntry.make network account key
  e.signer (keyring e.service e.user)

end LedgerClient
