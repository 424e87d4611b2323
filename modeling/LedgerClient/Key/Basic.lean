import LedgerClient.Wire.Reader
import LedgerClient.Bytes.Base58
import LedgerClient.Curve.Ed25519
import LedgerClient.Curve.Secp256k1

/-!
Keys and signatures, each with its curve. Text is the curve's name, a colon and base 58; the binary
form is one byte for the curve and the bytes of the key. Only Ed25519 keys can sign here.
-/

namespace LedgerClient

inductive Curve where
  | ed25519
  | secp256k1
  deriving DecidableEq, Repr

namespace Curve

def all : List Curve := [ed25519, secp256k1]

def name : Curve → String
  | ed25519 => "ed25519"
  | secp256k1 => "secp256k1"

def tag : Curve → Nat
  | ed25519 => 0
  | secp256k1 => 1

def keyLength : Curve → Nat
  | ed25519 => 32
  | secp256k1 => 33

def signatureLength : Curve → Nat
  | ed25519 => 64
  | secp256k1 => 65

def ofTag? (n : Nat) : Option Curve := all.find? (·.tag == n)

def ofName? (s : String) : Option Curve := all.find? (·.name == s)

def ofValue (v : Value) : Except Error Curve :=
  match v.number? with
  | some 0 => .ok ed25519
  | some 1 => .ok secp256k1
  | _ => .error (.badValue (v.literal ++ " is not a valid KeyType"))

def read : Reader Curve := do
  let n ← Reader.tag
  match ofTag? n with
  | some c => return c
  | none => Reader.refuse ("Unknown key type tag: " ++ Text.natText n)

end Curve

namespace KeyText

/-- The curve and the bytes that a text spells. -/
def split (s : String) : Except Error (Curve × Bytes) :=
  let cs := s.toList
  let front := String.ofList (cs.takeWhile (· != ':'))
  match cs.dropWhile (· != ':') with
  | [] => .error (malformed (.text s))
  | _ :: back => match Curve.ofName? front with
    | none => .error (.plain .key ("Unknown key type: " ++ front))
    | some c => match Base58.decode (String.ofList back) with
      | .ok bs => .ok (c, bs)
      | .error f => .error (.plain .key ("Invalid base58: " ++ f.message))
where
  malformed (v : Value) : Error :=
    .plain .key ("Invalid key format, expected '<type>:<base58>': " ++ v.literal)

def splitValue : Value → Except Error (Curve × Bytes)
  | .text s => split s
  | v => .error (split.malformed v)

def join (c : Curve) (bs : Bytes) : String := c.name ++ ":" ++ Base58.encode bs

def wrongLength (c : Curve) (what : String) (expected got : Nat) : Error :=
  .plain .key ("Invalid " ++ c.name ++ " " ++ what ++ " length: expected "
    ++ Text.natText expected ++ ", got " ++ Text.natText got)

end KeyText

/-- The bytes have the curve's length, and are a point of it where that is checked. -/
def PublicKey.isValid (c : Curve) (bs : Bytes) : Bool :=
  bs.length == c.keyLength && (c == .ed25519 || Secp256k1.isValidKey bs)

structure PublicKey where
  curve : Curve
  bytes : Bytes
  valid : PublicKey.isValid curve bytes = true
  deriving DecidableEq

structure Signature where
  curve : Curve
  bytes : Bytes
  length_eq : bytes.length = curve.signatureLength
  deriving DecidableEq

/-- The seed of an Ed25519 key. -/
structure SecretKey where
  seed : Bytes
  length_eq : seed.length = 32

namespace PublicKey

theorem ext {a b : PublicKey} (hc : a.curve = b.curve) (hb : a.bytes = b.bytes) : a = b := by
  cases a; cases b; simp_all

theorem length_eq (k : PublicKey) : k.bytes.length = k.curve.keyLength := by
  have := k.valid
  simp only [isValid, Bool.and_eq_true, beq_iff_eq] at this
  exact this.1

def make (c : Curve) (bs : Bytes) : Except Error PublicKey :=
  if bs.length ≠ c.keyLength then
    .error (KeyText.wrongLength c "public key" c.keyLength bs.length)
  else if h : isValid c bs = true then .ok ⟨c, bs, h⟩
  else .error (.plain .key "Secp256k1 public key is not a valid curve point")

def ofValue (v : Value) : Except Error PublicKey := do
  let (c, bs) ← KeyText.splitValue v
  make c bs

def parse (s : String) : Except Error PublicKey := ofValue (.text s)

def text (k : PublicKey) : String := KeyText.join k.curve k.bytes

def display (k : PublicKey) : String := "PublicKey(" ++ k.text ++ ")"

def encoding (k : PublicKey) : Encoding := Encoding.tag k.curve.tag ++ Encoding.ofBytes k.bytes

def malformed (e : Error) : Error :=
  .client .encoding (e.message?.elim "" Value.display) [] (some e)

def read : Reader PublicKey := do
  let c ← Curve.read
  let bs ← Reader.raw c.keyLength
  match make c bs with
  | .ok k => return k
  | .error e => Reader.fail (malformed e)

/-- False wherever curve or form do not fit. The one error is a check that ends at infinity. -/
def verify (k : PublicKey) (message : Bytes) (s : Signature) : Except Error Bool :=
  if k.curve ≠ s.curve then .ok false
  else match k.curve with
    | .ed25519 => .ok (Ed25519.verify k.bytes s.bytes message)
    | .secp256k1 => match Secp256k1.verify k.bytes s.bytes message with
      | some b => .ok b
      | none => .error .wrongKind

end PublicKey

namespace Signature

theorem ext {a b : Signature} (hc : a.curve = b.curve) (hb : a.bytes = b.bytes) : a = b := by
  cases a; cases b; simp_all

def make (c : Curve) (bs : Bytes) : Except Error Signature :=
  if h : bs.length = c.signatureLength then .ok ⟨c, bs, h⟩
  else .error (KeyText.wrongLength c "signature" c.signatureLength bs.length)

def ofValue (v : Value) : Except Error Signature := do
  let (c, bs) ← KeyText.splitValue v
  make c bs

def parse (s : String) : Except Error Signature := ofValue (.text s)

def text (s : Signature) : String := KeyText.join s.curve s.bytes

def display (s : Signature) : String := "Signature(" ++ s.text ++ ")"

def encoding (s : Signature) : Encoding := Encoding.tag s.curve.tag ++ Encoding.ofBytes s.bytes

def read : Reader Signature := do
  let c ← Curve.read
  Reader.lift (make c (← Reader.raw c.signatureLength))

end Signature

namespace SecretKey

theorem ext {a b : SecretKey} (h : a.seed = b.seed) : a = b := by
  cases a; cases b; simp_all

/-- From a seed, or from a seed and the public key behind it. -/
def ofBytes (bs : Bytes) : Except Error SecretKey :=
  if h : bs.length = 32 ∨ bs.length = 64 then
    .ok ⟨bs.take 32, by rw [List.length_take]; omega⟩
  else .error (.plain .key ("Invalid Ed25519 secret key length: expected 32 or 64, got "
    ++ Text.natText bs.length))

def ofValue (v : Value) : Except Error SecretKey := do
  let (c, bs) ← KeyText.splitValue v
  match c with
  | .ed25519 => ofBytes bs
  | .secp256k1 => throw (.plain .key ("Unsupported secret key type: " ++ c.name))

def parse (s : String) : Except Error SecretKey := ofValue (.text s)

def publicKey (k : SecretKey) : PublicKey :=
  ⟨.ed25519, Ed25519.publicKey k.seed,
    by simp [PublicKey.isValid, Ed25519.length_publicKey, Curve.keyLength]⟩

def sign (k : SecretKey) (message : Bytes) : Signature :=
  ⟨.ed25519, Ed25519.sign k.seed message, Ed25519.length_sign _ _⟩

/-- The seed followed by the public key. -/
def toBytes (k : SecretKey) : Bytes := k.seed ++ k.publicKey.bytes

/-- The text that a credential file holds; it contains the secret. -/
def text (k : SecretKey) : String := KeyText.join .ed25519 k.toBytes

def masked : String := "ed25519:***"

def display (_ : SecretKey) : String := "SecretKey(" ++ masked ++ ")"

end SecretKey

/-- A secret key with its public key. -/
structure KeyPair where
  secret : SecretKey
  publicKey : PublicKey
  publicKey_eq : publicKey = secret.publicKey

namespace KeyPair

def ofSecret (k : SecretKey) : KeyPair := ⟨k, k.publicKey, rfl⟩

def sign (k : KeyPair) (message : Bytes) : Signature := k.secret.sign message

def display (k : KeyPair) : String :=
  "KeyPair(public_key=" ++ k.publicKey.text ++ ", secret_key=***)"

end KeyPair

end LedgerClient
