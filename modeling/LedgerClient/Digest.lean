import LedgerClient.Error.Basic
import LedgerClient.Bytes.Base58
import LedgerClient.Bytes.Hex
import LedgerClient.Hash.Sha256

/-!
Digests of 32 bytes, shown in base 58.
-/

namespace LedgerClient

structure Digest where
  bytes : Bytes
  length_eq : bytes.length = 32
  deriving DecidableEq

namespace Digest

theorem ext {a b : Digest} (h : a.bytes = b.bytes) : a = b := by
  cases a; cases b; simp_all

def of (message : Bytes) : Digest := ⟨Sha256.digest message, Sha256.length_digest message⟩

def wrongLength (n : Int) : Error :=
  .plain .digest ("Hash must be 32 bytes, got " ++ Text.intText n)

def ofBytes (bs : Bytes) : Except Error Digest :=
  if h : bs.length = 32 then .ok ⟨bs, h⟩ else .error (wrongLength bs.length)

def parse (s : String) : Except Error Digest :=
  match Base58.decode s with
  | .error f =>
    .error (.plain .digest ("Invalid base58 hash " ++ Text.quoted s ++ ": " ++ f.message))
  | .ok bs => ofBytes bs

def text (d : Digest) : String := Base58.encode d.bytes

def display (d : Digest) : String := "CryptoHash(" ++ d.text ++ ")"

/-- Bytes from a list of numbers below 256; `noun` names them where one is not. -/
def bytesOfList (noun : String) : List Value → Except Error Bytes
  | [] => .ok []
  | v :: r => match v.whole? with
    | none => .error .wrongKind
    | some n =>
      if 0 ≤ n ∧ n < 256 then (bytesOfList noun r).map (UInt8.ofNat n.toNat :: ·)
      else .error (.badValue (noun ++ " must be in range(0, 256)"))

/-- From bytes or a list of them; a number stands for that many zero bytes. -/
def ofRaw : Value → Except Error Digest
  | .bytes bs => ofBytes bs
  | .list xs => (bytesOfList "bytes" xs).bind ofBytes
  | .object [] => ofBytes []
  | v => match v.whole? with
    | none => .error .wrongKind
    | some n =>
      if Error.indexLimit < n.natAbs then .error .noIndex
      else if n < 0 then .error (.badValue "negative count")
      else if n = 32 then .ok ⟨List.replicate 32 0, by simp⟩
      else .error (wrongLength n)

def ofText : Value → Except Error Digest
  | .text s => parse s
  | _ => .error (.host .noMember)

def ofValue : Value → Except Error Digest
  | .text s => parse s
  | v => ofRaw v

end Digest

end LedgerClient
