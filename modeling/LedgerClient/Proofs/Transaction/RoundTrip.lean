import LedgerClient.Proofs.Action.RoundTrip
import LedgerClient.Proofs.Bytes.Base64
import LedgerClient.Transaction.Basic

/-!
Transactions are read back as they were written, signed and unsigned, as bytes and as text.
-/

namespace LedgerClient

open Encoding

lemma Transaction.inverts : Inverts Transaction.read Transaction.encoding := by
  intro t bs h
  simp only [encoding, append_assoc] at h
  refine Reads.andThen h (AccountId.inverts _) fun _ h => ?_
  refine Reads.andThen h (PublicKey.inverts _) fun _ h => ?_
  refine Reads.andThen h (Counter.inverts _) fun _ h => ?_
  refine Reads.andThen h (AccountId.inverts _) fun _ h => ?_
  refine Reads.andThen h (Digest.inverts _) fun _ h => ?_
  exact (inverts_sequence Action.inverts _ _ h).map

namespace SignedTransaction

lemma inverts : Inverts SignedTransaction.read SignedTransaction.encoding := by
  intro s bs h
  exact Reads.andThen h (Transaction.inverts _) fun _ h => (Signature.inverts _ _ h).map

lemma toBase64_ok {s : SignedTransaction} {bs : Bytes} (h : s.toBytes = .ok bs) :
    s.toBase64 = .ok (Base64.encode bs) := by
  rw [toBase64, h]
  rfl

/-- A transaction with a binary form has one under every signature. -/
lemma toBytes_ok {t : Transaction} {bs : Bytes} (h : t.toBytes = .ok bs) (s : Signature) :
    ∃ x, (⟨t, s⟩ : SignedTransaction).toBytes = .ok (bs ++ x) := by
  obtain ⟨x, hx⟩ := s.toBytes_encoding
  exact ⟨x, toBytes_append h hx⟩

lemma ofBytes_of_toBytes {s : SignedTransaction} {bs : Bytes} (h : s.toBytes = .ok bs) :
    ofBytes bs = .ok s := (inverts s bs h).whole

lemma ofBase64_of_toBase64 {s : SignedTransaction} {text : String} (h : s.toBase64 = .ok text) :
    ofBase64 text = .ok s := by
  obtain ⟨bs, hb, rfl⟩ := of_map_ok h
  rw [ofBase64, Base64.bytes_encode]
  exact ofBytes_of_toBytes hb

/-- One text stands for at most one signed transaction. -/
theorem toBase64_injective {s t : SignedTransaction} {text : String}
    (hs : s.toBase64 = .ok text) (ht : t.toBase64 = .ok text) : s = t := by
  have := ofBase64_of_toBase64 hs
  rw [ofBase64_of_toBase64 ht] at this
  exact (Except.ok.inj this).symm

end SignedTransaction

/-- **Round trip.** A transaction that has a binary form is read back from it, and so is the same
transaction under any signature, from its bytes and from its text. -/
theorem Transaction.ofBytes_toBytes (t : Transaction) (bs : Bytes) (h : t.toBytes = .ok bs) :
    Transaction.ofBytes bs = .ok t ∧
    ∀ s : Signature, ∃ x text,
      (⟨t, s⟩ : SignedTransaction).toBytes = .ok x ∧ SignedTransaction.ofBytes x = .ok ⟨t, s⟩ ∧
      (⟨t, s⟩ : SignedTransaction).toBase64 = .ok text ∧
      SignedTransaction.ofBase64 text = .ok ⟨t, s⟩ := by
  refine ⟨(Transaction.inverts t bs h).whole, fun s => ?_⟩
  obtain ⟨x, hx⟩ := SignedTransaction.toBytes_ok h s
  have ht := SignedTransaction.toBase64_ok hx
  exact ⟨_, _, hx, SignedTransaction.ofBytes_of_toBytes hx, ht,
    SignedTransaction.ofBase64_of_toBase64 ht⟩

namespace Transaction

/-- Adds a key that may only call, and relays a signed action with keys out of order in its data. -/
def relaying : Transaction :=
  let alice : AccountId := ⟨"alice.near", by decide +kernel⟩
  let key : PublicKey := ⟨.ed25519, List.replicate 32 7, by decide⟩
  { signer := alice
    publicKey := key
    nonce := .whole 7
    receiver := alice
    blockHash := ⟨List.replicate 32 9, by decide⟩
    actions := [
      .direct (.addKey key (.functionCall alice ["vote"] (some ⟨5, by decide⟩))),
      .delegated ⟨⟨alice, alice,
        [.stateInit ⟨.publisher alice, .ofPairs [([2], [3]), ([1], [])]⟩ .zero],
        .whole 8, .whole 99, key⟩, ⟨.secp256k1, List.replicate 65 1, by decide⟩⟩] }

theorem relaying_ofBytes_toBytes :
    ∃ bs, relaying.toBytes = .ok bs ∧ ofBytes bs = .ok relaying :=
  ⟨_, rfl, (ofBytes_toBytes relaying _ rfl).1⟩

end Transaction

end LedgerClient
