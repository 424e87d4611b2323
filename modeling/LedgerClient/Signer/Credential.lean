import LedgerClient.Json.Document
import LedgerClient.Signer.Basic

/-!
Secret keys that are kept outside: in files and keyrings as JSON records, and in the environment.
A record may also declare the public key, which then has to be the right one.
-/

namespace LedgerClient

namespace Credential

def malformed (message : String) : Error := .plain .keyFormat message

/-- The secret key that a text spells; `message` says whose text it is if it spells none. -/
def keyOfText (message text : String) : Except Error SecretKey :=
  match SecretKey.parse text with
  | .ok k => .ok k
  | .error e => .error (.client .keyFormat message [] (some e))

/-- Refuses a key whose public part is not the declared one. -/
def checkDeclared (source : String) (declared : Value) (k : SecretKey) : Except Error SecretKey :=
  if declared.isNull || declared.same (.text k.publicKey.text) then .ok k
  else .error (.client .keyFormat ("Public key mismatch in credential " ++ source)
    [("declared", declared), ("derived", .text k.publicKey.text)] none)

def ofMembers (source : String) (ms : Members) : Except Error SecretKey :=
  match (ms.get "private_key").orElse (ms.get "secret_key") with
  | .text t => do
    let k ← keyOfText ("Invalid key in credential " ++ source) t
    checkDeclared source (ms.get "public_key") k
  | _ => .error (malformed ("Missing 'private_key' field in credential " ++ source))

/-- The secret key of a JSON record; `source` names the record in messages. -/
def parse (content source : String) : Except Error SecretKey :=
  match Json.parse content with
  | .ok (.object ms) => ofMembers source ms
  | .ok _ => .error (malformed ("Credential " ++ source ++ " is not a JSON object"))
  | .error (.host (.notJson m)) =>
    .error (.client .keyFormat ("Invalid JSON in credential " ++ source) []
      (some (.host (.notJson m))))
  | .error e => .error e

end Credential

end LedgerClient
