import LedgerClient.Bytes.Base64
import LedgerClient.Bytes.Hex
import LedgerClient.Json.Document
import LedgerClient.Json.Printer
import LedgerClient.OffChain.Params
import LedgerClient.Signer.Basic
import LedgerClient.Value.Shape

/-!
Signed messages as they travel: as JSON, alone or with the parameters that a verifier needs.
Members have two spellings, and the one with capitals is looked for first.
-/

namespace LedgerClient.OffChain

/-- Three spellings of the same 64 bytes: base 64, base 58, and base 58 behind the curve's name. -/
def parseSignature (s : String) : Except Error Signature :=
  let plain := "ed25519:".toList
  let rest := if plain.isPrefixOf s.toList then s.toList.drop plain.length else s.toList
  match (Base64.decodeExact? s).bind ofBytes? with
  | some sig => .ok sig
  | none => match (Base58.decode (String.ofList rest)).toOption.bind ofBytes? with
    | some sig => .ok sig
    | none => .error (.plain .key
      "Invalid signature format. Expected base64, ed25519:base58, or plain base58")
where
  ofBytes? (bs : Bytes) : Option Signature :=
    if h : bs.length = 64 then some ⟨.ed25519, bs, h⟩ else none

structure SignedMessage where
  account : AccountId
  publicKey : PublicKey
  signature : Signature
  state : Option String
  deriving DecidableEq

/-- A signed message and the parameters under which it was signed. -/
structure AuthPayload where
  signed : SignedMessage
  nonce : Bytes
  message : String
  recipient : String
  callbackUrl : Option String
  length_eq : nonce.length = nonceLength

/-- Reads by a rule whose complaints about a value count as faults of that value. -/
def checked {α : Type} (f : Value → Except Error α) : Shape α := fun v =>
  match f v with
  | .ok a => .ok a
  | .error e => if e.isValueFault then .fault .badValue else .stopped e

/-- The spelling under which a member is given, else the first one. -/
def spelling (ms : Members) (first second : String) : String :=
  if !ms.has first && ms.has second then second else first

def signatureOf : Value → Except Error Signature
  | .text s => parseSignature s
  | _ => .error .wrongKind

def nonceOf (v : Value) : Except Error { bs : Bytes // bs.length = nonceLength } := do
  let bs ← match v with
    | .text s => match Hex.decode? s with
      | some bs => pure bs
      | none => throw (.badValue "non-hexadecimal number found in fromhex() arg")
    | .list vs =>
      if vs.length = nonceLength then Digest.bytesOfList "bytes" vs else throw wrongLength
    | .object ms => throw (if ms.length = nonceLength then .wrongKind else wrongLength)
    | _ => throw .wrongKind
  if h : bs.length = nonceLength then return ⟨bs, h⟩ else throw wrongLength
where
  wrongLength : Error := .badValue "nonce must be 32 bytes"

/-- The members that are there. -/
def present (parts : List (String × Option Value)) : Members :=
  parts.filterMap fun p => p.2.map fun v => (p.1, v)

namespace SignedMessage

def shape : Shape SignedMessage := Shape.record fun ms =>
  SignedMessage.mk
    <$> Shape.required ms (spelling ms "accountId" "account_id") (checked AccountId.ofValue)
    <*> Shape.required ms (spelling ms "publicKey" "public_key") (checked PublicKey.ofValue)
    <*> Shape.required ms "signature" (checked signatureOf)
    <*> Shape.orElse ms "state" none (Shape.optional Shape.text)

def toValue (m : SignedMessage) : Value :=
  .object (present [("accountId", some (.text m.account.text)),
    ("publicKey", some (.text m.publicKey.text)),
    ("signature", some (.text (Base64.encode m.signature.bytes))),
    ("state", m.state.map .text)])

def toJson (m : SignedMessage) : String := (Json.print? Json.compactUnicode m.toValue).getD ""

end SignedMessage

/-- Reads JSON text against a shape; text that is no JSON has one fault. -/
def ofJson {α : Type} (s : Shape α) (text : String) : Except Error α :=
  match Json.parseWith? .narrow text with
  | some v => (s v).toExcept
  | none => (Reading.fault .badJson : Reading α).toExcept

def SignedMessage.ofJson (text : String) : Except Error SignedMessage :=
  OffChain.ofJson SignedMessage.shape text

namespace AuthPayload

def ofSigned (m : SignedMessage) (p : Params) : AuthPayload :=
  ⟨m, p.nonce, p.message, p.recipient, p.callbackUrl, p.length_eq⟩

def toParams (a : AuthPayload) : Params :=
  ⟨a.message, a.recipient, a.nonce, a.callbackUrl, a.signed.state, a.length_eq⟩

def shape : Shape AuthPayload := Shape.record fun ms =>
  (fun m n message recipient callback => ⟨m, n.1, message, recipient, callback, n.2⟩)
    <$> Shape.required ms (spelling ms "signedMessage" "signed_message") SignedMessage.shape
    <*> Shape.required ms "nonce" (checked nonceOf)
    <*> Shape.required ms "message" Shape.text
    <*> Shape.required ms "recipient" Shape.text
    <*> Shape.orElse ms (spelling ms "callbackUrl" "callback_url") none (Shape.optional Shape.text)

def toValue (a : AuthPayload) : Value :=
  .object (present [("signedMessage", some a.signed.toValue),
    ("nonce", some (.text (Hex.encode a.nonce))), ("message", some (.text a.message)),
    ("recipient", some (.text a.recipient)), ("callbackUrl", a.callbackUrl.map .text)])

def toJson (a : AuthPayload) : String := (Json.print? Json.compactUnicode a.toValue).getD ""

def ofJson (text : String) : Except Error AuthPayload := OffChain.ofJson shape text

end AuthPayload

end LedgerClient.OffChain

namespace LedgerClient.Signer

/-- A message signed with the key of a turn. -/
def signMessage (s : Signer) (turn : Nat) (p : OffChain.Params) :
    Except Error OffChain.SignedMessage := do
  let k := s.key turn
  return ⟨s.account, k.publicKey, k.sign (← p.digest).bytes, p.state⟩

end LedgerClient.Signer
