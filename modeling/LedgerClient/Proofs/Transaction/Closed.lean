import LedgerClient.Proofs.Action.Nesting
import LedgerClient.Proofs.Action.Range
import LedgerClient.Proofs.Transaction.Reencoding

/-!
What reading of foreign bytes can come to: a value in range, an error of the bytes, or, on long
bytes only, an end of the stack.
-/

namespace LedgerClient

open Encoding

variable {α : Type}

namespace Transaction

def InRange (t : Transaction) : Prop :=
  t.signer.InRange ∧ t.publicKey.InRange ∧ t.nonce.InRange ∧ t.receiver.InRange ∧
  t.blockHash.InRange ∧ ∀ a ∈ t.actions, a.InRange

lemma inRange {t : Transaction} (h : t.encoding.Writable) : t.InRange := by
  simp only [encoding, writable_append, writable_sequence] at h
  obtain ⟨⟨⟨⟨-, hnonce⟩, -⟩, -⟩, -, hactions⟩ := h
  exact ⟨t.signer.inRange, t.publicKey.inRange, Counter.inRange hnonce, t.receiver.inRange,
    t.blockHash.length_eq, fun a ha => Action.inRange (hactions a ha)⟩

end Transaction

namespace SignedTransaction

def InRange (s : SignedTransaction) : Prop := s.transaction.InRange ∧ s.signature.InRange

lemma inRange {s : SignedTransaction} (h : s.encoding.Writable) : s.InRange := by
  rw [encoding, writable_append] at h
  exact ⟨Transaction.inRange h.1, s.signature.length_eq⟩

end SignedTransaction

/-- What the bytes come to is a value in range, or an error that says what is wrong with them. The
one other error is that of the stack, on bytes that fill it. -/
def DecodesClosed (ofBytes : Bytes → Except Error α) (P : α → Prop) (bs : Bytes) : Prop :=
  (∃ a, ofBytes bs = .ok a ∧ P a) ∨
    ∃ x, ofBytes bs = .error x ∧
      (x.Malformed ∨ x = .host (.tooDeep .calling) ∧ 17 * Action.depthLimit ≤ bs.length)

lemma Spelling.Reorders.decodesClosed {F : Spelling α} {w : α → Encoding} {r : Reader α}
    {P : α → Prop} (hF : F.Reorders w) (hr : Yields (17 * Action.depthLimit) F.Any r)
    (hP : ∀ {a}, (w a).Writable → P a) (bs : Bytes) : DecodesClosed (Reader.whole r) P bs := by
  cases h : Reader.whole r bs with
  | ok a =>
    obtain ⟨e, ⟨ls, he⟩, hbs⟩ := hr.whole_ok h
    exact .inl ⟨a, h, hP (hF.writable he ⟨bs, hbs⟩)⟩
  | error x => exact .inr ⟨x, h, hr.whole_error h⟩

/-- **Reading is closed** as long as the stack lasts: foreign bytes are a transaction, a signed
transaction or a signed delegation in range, or are refused for what is wrong with them. -/
theorem decoding_closed (bs : Bytes) :
    DecodesClosed Transaction.ofBytes Transaction.InRange bs ∧
    DecodesClosed SignedTransaction.ofBytes SignedTransaction.InRange bs ∧
    DecodesClosed SignedDelegate.ofBytes SignedDelegate.InRange bs :=
  ⟨Transaction.reorders.decodesClosed Transaction.yields_read Transaction.inRange bs,
    SignedTransaction.reorders.decodesClosed SignedTransaction.yields_read
      SignedTransaction.inRange bs,
    SignedDelegate.reorders.decodesClosed SignedDelegate.yields_read SignedDelegate.inRange bs⟩

namespace SignedDelegate

/-- A delegation of nothing. -/
def idle : SignedDelegate :=
  let alice : AccountId := ⟨"aa", by decide⟩
  ⟨⟨alice, alice, [], .whole 1, .whole 2, Transaction.relaying.publicKey⟩,
    ⟨.ed25519, List.replicate 64 1, by decide⟩⟩

/-- Five hundred delegations within one another are refused with no word about the bytes. -/
theorem idle_nest_open :
    ∃ bs x, (idle.nest 500).toBytes = .ok bs ∧ ofBytes bs = .error x ∧ ¬x.Malformed := by
  obtain ⟨bs, hbs⟩ := writable_nest (s := idle) ⟨_, rfl⟩ 500
  refine ⟨bs, .host (.tooDeep .calling), hbs, ofBytes_nest idle 499 hbs, ?_⟩
  rintro (h | h) <;> exact Error.not_ofKind_host _ _ h

end SignedDelegate

end LedgerClient
