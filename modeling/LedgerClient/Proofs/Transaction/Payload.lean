import LedgerClient.OffChain.Params
import LedgerClient.Proofs.Transaction.RoundTrip
import LedgerClient.Proofs.Wire.Length

/-!
Everything that is signed: transactions, delegations and messages off the chain. What is hashed for
one of them is hashed for no other, be it of the same kind or of another one. The kinds are told
apart by the first four bytes, which hold a tag or, in a transaction, the length of an identifier.
-/

namespace LedgerClient

open Encoding

namespace OffChain.Params

/-- The parts of a message that are signed. The state is none of them. -/
def Agrees (p q : Params) : Prop :=
  p.message = q.message ∧ p.recipient = q.recipient ∧ p.nonce = q.nonce ∧
  p.callbackUrl = q.callbackUrl

/-- Reads the signed parts of a message. -/
def readSigned : Reader (String × Bytes × String × Option String) := do
  let _ ← Reader.int .u32
  let message ← Reader.text
  let nonce ← Reader.raw nonceLength
  let recipient ← Reader.text
  return (message, nonce, recipient, ← Reader.option Reader.text)

lemma reads_preimage {p : Params} {bs : Bytes} (h : p.preimage = .ok bs) :
    Reads readSigned bs (p.message, p.nonce, p.recipient, p.callbackUrl) := by
  have hnonce (x : Bytes) (hx : (ofBytes p.nonce).toBytes = .ok x) :
      Reads (Reader.raw nonceLength) x p.nonce := by
    obtain rfl : p.nonce = x := by simpa using hx
    exact reads_raw (by decide) p.length_eq
  simp only [preimage, encoding, append_assoc] at h
  refine Reads.andThen h (fun _ => reads_int) fun _ h => ?_
  refine Reads.andThen h (inverts_text _) fun _ h => ?_
  refine Reads.andThen h hnonce fun _ h => ?_
  exact Reads.andThen h (inverts_text _) fun _ h => (inverts_option inverts_text _ _ h).map

lemma agrees_of_preimage {p q : Params} {bs : Bytes} (hp : p.preimage = .ok bs)
    (hq : q.preimage = .ok bs) : p.Agrees q := by
  have h := ((reads_preimage hp).unique (u := []) (v := []) (reads_preimage hq) rfl).1
  simp only [Prod.mk.injEq] at h
  exact ⟨h.1, h.2.2.1, h.2.1, h.2.2.2⟩

end OffChain.Params

lemma Delegate.inverts : Inverts Delegate.read Delegate.encoding :=
  fun _ _ => reads_readWith fun a _ => Action.inverts (.direct a)

lemma Delegate.eq_of_preimage {d e : Delegate} {bs : Bytes} (hd : d.preimage = .ok bs)
    (he : e.preimage = .ok bs) : d = e := by
  obtain ⟨x, y, hx, hy, rfl⟩ := toBytes_append_ok hd
  obtain ⟨x', z, hx', hz, h⟩ := toBytes_append_ok he
  obtain rfl := Except.ok.inj (hx.symm.trans hx')
  obtain rfl := List.append_cancel_left h
  exact ((Delegate.inverts d y hy).unique (u := []) (v := []) (Delegate.inverts e y hz) rfl).1

lemma Transaction.eq_of_toBytes {t u : Transaction} {bs : Bytes} (ht : t.toBytes = .ok bs)
    (hu : u.toBytes = .ok bs) : t = u :=
  ((Transaction.inverts t bs ht).unique (u := []) (v := []) (Transaction.inverts u bs hu) rfl).1

/-- Something to sign. -/
inductive Payload where
  | transaction (t : Transaction)
  | delegate (d : Delegate)
  | message (p : OffChain.Params)

namespace Payload

/-- The bytes that are hashed. -/
def preimage : Payload → Except Error Bytes
  | transaction t => t.toBytes
  | delegate d => d.preimage
  | message p => p.preimage

/-- What is signed. -/
def digest : Payload → Except Error Digest
  | transaction t => t.digest
  | delegate d => d.digest
  | message p => p.digest

/-- Of the same kind, and equal in all that is signed. -/
def Same : Payload → Payload → Prop
  | transaction t, transaction u => t = u
  | delegate d, delegate e => d = e
  | message p, message q => p.Agrees q
  | _, _ => False

/-- What the first four bytes hold. -/
def lead : Payload → Nat
  | transaction t => (Utf8.encode t.signer.text).length
  | delegate _ => Delegate.signingTag
  | message _ => OffChain.Params.tag

lemma toNatLE_take {n : Nat} {e : Encoding} {bs : Bytes}
    (h : (int .u32 n ++ e).toBytes = .ok bs) : Bytes.toNatLE (bs.take 4) = n := by
  obtain ⟨x, y, hx, -, rfl⟩ := toBytes_append_ok h
  obtain ⟨-, hlt, rfl⟩ := int_ok hx
  simp only [Width.size] at hlt ⊢
  rw [List.take_left' (Bytes.length_ofNatLE 4 _), Bytes.toNatLE_ofNatLE, Int.toNat_natCast,
    Nat.mod_eq_of_lt (by exact_mod_cast hlt)]

lemma lead_eq {p : Payload} {bs : Bytes} (h : p.preimage = .ok bs) :
    Bytes.toNatLE (bs.take 4) = p.lead := by
  cases p with
  | transaction t =>
    simp only [preimage, Transaction.toBytes, Transaction.encoding, AccountId.encoding, text,
      counted, append_assoc] at h
    exact toNatLE_take h
  | delegate d =>
    simp only [preimage, Delegate.preimage] at h
    exact toNatLE_take h
  | message p =>
    simp only [preimage, OffChain.Params.preimage, OffChain.Params.encoding, append_assoc] at h
    exact toNatLE_take h

/-- No identifier is as long as a tag. -/
lemma length_signer_lt (t : Transaction) :
    (Utf8.encode t.signer.text).length < Delegate.signingTag := by
  have hu := (Utf8.length_encode t.signer.text).2
  have hmax := t.signer.length_text.2
  simp only [AccountId.maxLength, Delegate.signingTag, Nat.pow_eq] at *
  omega

lemma signingTag_lt : Delegate.signingTag < OffChain.Params.tag := by decide

/-- The first bytes tell the kind, and within a kind the bytes tell the value. -/
lemma same_of_preimage {p q : Payload} {bs : Bytes} (hp : p.preimage = .ok bs)
    (hq : q.preimage = .ok bs) : p.Same q := by
  have hlead : p.lead = q.lead := (lead_eq hp).symm.trans (lead_eq hq)
  have htags := signingTag_lt
  cases p with
  | transaction t =>
    have ht := length_signer_lt t
    cases q with
    | transaction u => exact Transaction.eq_of_toBytes hp hq
    | delegate e => exact absurd hlead (by simp only [lead]; omega)
    | message q => exact absurd hlead (by simp only [lead]; omega)
  | delegate d =>
    cases q with
    | transaction u =>
      have hu := length_signer_lt u
      exact absurd hlead (by simp only [lead]; omega)
    | delegate e => exact Delegate.eq_of_preimage hp hq
    | message q => exact absurd hlead (by simp only [lead]; omega)
  | message p =>
    cases q with
    | transaction u =>
      have hu := length_signer_lt u
      exact absurd hlead (by simp only [lead]; omega)
    | delegate e => exact absurd hlead (by simp only [lead]; omega)
    | message q => exact OffChain.Params.agrees_of_preimage hp hq

lemma digest_eq (p : Payload) : p.digest = p.preimage.map Digest.of := by cases p <;> rfl

/-- **Nothing is signed twice.** Two payloads with the same bytes to hash are the same, and two with
the same digest to sign are the same unless their bytes are a collision of the hash. -/
theorem digests_apart (p q : Payload) :
    (∀ bs, p.preimage = .ok bs → q.preimage = .ok bs → p.Same q) ∧
    ∀ d, p.digest = .ok d → q.digest = .ok d → p.Same q ∨
      ∃ x y, p.preimage = .ok x ∧ q.preimage = .ok y ∧ x ≠ y ∧
        Sha256.digest x = Sha256.digest y := by
  refine ⟨fun bs => same_of_preimage, fun d hp hq => ?_⟩
  rw [digest_eq] at hp hq
  obtain ⟨x, hx, rfl⟩ := of_map_ok hp
  obtain ⟨y, hy, hd⟩ := of_map_ok hq
  by_cases hxy : x = y
  · exact .inl (same_of_preimage hx (hxy ▸ hy))
  · exact .inr ⟨x, y, hx, hy, hxy, congrArg Digest.bytes hd.symm⟩

end Payload

end LedgerClient
