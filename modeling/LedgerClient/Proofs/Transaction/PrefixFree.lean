import LedgerClient.Proofs.Action.Persists
import LedgerClient.Proofs.Transaction.RoundTrip

/-!
Binary forms are prefix-free: cut short or with bytes behind it, none is a binary form any more, and
each of these faults is an error of the encoding.
-/

namespace LedgerClient

variable {α : Type}

/-- Every part of the bytes from their beginning is refused, and so are more bytes that begin with
them, each with an encoding error. -/
def PrefixFree (ofBytes : Bytes → Except Error α) (bs : Bytes) : Prop :=
  (∀ p, p <+: bs → p ≠ bs → ∃ x, ofBytes p = .error x ∧ x.OfKind .encoding) ∧
    ∀ t, t ≠ [] → ∃ x, ofBytes (bs ++ t) = .error x ∧ x.OfKind .encoding

/-- What is written is prefix-free where its reader takes it back and persists. -/
lemma Inverts.prefixFree {r : Reader α} {w : α → Encoding} {a : α} {bs : Bytes} (hi : Inverts r w)
    (hr : Persists r) (h : (w a).toBytes = .ok bs) : PrefixFree (Reader.whole r) bs :=
  ⟨fun _ hp hne => hr.whole_prefix (hi a bs h) hp hne, fun _ ht => (hi a bs h).whole_append ht⟩

lemma Transaction.persists : Persists Transaction.read := by
  refine AccountId.persists.bind fun _ => PublicKey.persists.bind fun _ => ?_
  refine Counter.persists.bind fun _ => AccountId.persists.bind fun _ => ?_
  exact Digest.persists.bind fun _ => (persists_sequence Action.persists).map

lemma SignedTransaction.persists : Persists SignedTransaction.read :=
  Transaction.persists.bind fun _ => Signature.persists.map

/-- **Binary forms are prefix-free**: of transactions, signed transactions and signed
delegations. -/
theorem binary_forms_prefixFree :
    (∀ (t : Transaction) bs, t.toBytes = .ok bs → PrefixFree Transaction.ofBytes bs) ∧
    (∀ (s : SignedTransaction) bs, s.toBytes = .ok bs → PrefixFree SignedTransaction.ofBytes bs) ∧
    ∀ (d : SignedDelegate) bs, d.toBytes = .ok bs → PrefixFree SignedDelegate.ofBytes bs :=
  ⟨fun _ _ => Transaction.inverts.prefixFree Transaction.persists,
    fun _ _ => SignedTransaction.inverts.prefixFree SignedTransaction.persists,
    fun _ _ => SignedDelegate.inverts.prefixFree SignedDelegate.persists⟩

/-- A call that one account has signed and any other may submit. -/
def SignedDelegate.voting : SignedDelegate :=
  let t := Transaction.relaying
  ⟨⟨t.signer, t.receiver, [.functionCall "vote" [1, 2] .zero .zero], .whole 3, .whole 4,
    t.publicKey⟩, ⟨.ed25519, List.replicate 64 5, by decide⟩⟩

theorem Transaction.relaying_prefixFree :
    (∃ bs, relaying.toBytes = .ok bs ∧ PrefixFree ofBytes bs) ∧
    (∃ bs, (⟨relaying, SignedDelegate.voting.signature⟩ : SignedTransaction).toBytes = .ok bs ∧
      PrefixFree SignedTransaction.ofBytes bs) ∧
    ∃ bs, SignedDelegate.voting.toBytes = .ok bs ∧ PrefixFree SignedDelegate.ofBytes bs := by
  obtain ⟨x, hx⟩ : ∃ bs, relaying.toBytes = .ok bs := ⟨_, rfl⟩
  obtain ⟨y, hy⟩ := SignedTransaction.toBytes_ok hx SignedDelegate.voting.signature
  obtain ⟨z, hz⟩ : ∃ bs, SignedDelegate.voting.toBytes = .ok bs := ⟨_, rfl⟩
  exact ⟨⟨x, hx, binary_forms_prefixFree.1 _ _ hx⟩, ⟨_, hy, binary_forms_prefixFree.2.1 _ _ hy⟩,
    ⟨z, hz, binary_forms_prefixFree.2.2 _ _ hz⟩⟩

end LedgerClient
