import LedgerClient.Proofs.Action.Spelling
import LedgerClient.Proofs.Transaction.RoundTrip

/-!
What is written for a transaction that was read. It is the bytes that were read but for maps whose
pairs are out of order there, and it is read as the same transaction again.
-/

namespace LedgerClient

open Encoding

variable {α : Type}

namespace Transaction

def front (t : Transaction) : Encoding :=
  t.signer.encoding ++ t.publicKey.encoding ++ t.nonce.encoding ++ t.receiver.encoding
    ++ t.blockHash.encoding ++ int .u32 t.actions.length

def Spelled : Spelling Transaction :=
  (Spelling.Each Action.Spelled).Between actions front fun _ => ∅

lemma yields_read : Yields (17 * Action.depthLimit) Spelled.Any Transaction.read := by
  refine AccountId.canonical.bind fun signer => PublicKey.canonical.bind fun publicKey => ?_
  refine Counter.canonical.bind fun nonce => AccountId.canonical.bind fun receiver => ?_
  refine Digest.canonical.bind fun blockHash => ?_
  refine ((yields_sequence Action.yields_read).mono (Nat.le_add_right _ 4)).map ?_
  rintro actions e ⟨e', hrow, he⟩
  obtain ⟨ls, hrow⟩ := Spelling.any_each hrow
  refine ⟨ls, e', hrow, ?_⟩
  simp only [he, front, append_assoc, append_empty]

lemma reorders : Spelled.Reorders Transaction.encoding :=
  (Action.reorders.each.between _ _ _).congr fun t => by
    simp only [front, encoding, Encoding.sequence, append_assoc, append_empty]

end Transaction

namespace SignedTransaction

def Spelled : Spelling SignedTransaction :=
  Transaction.Spelled.Between transaction (fun _ => ∅) fun s => s.signature.encoding

lemma yields_read : Yields (17 * Action.depthLimit) Spelled.Any SignedTransaction.read := by
  refine Transaction.yields_read.bind ?_
  rintro transaction e ⟨ls, ht⟩
  exact Signature.canonical.last fun signature => ⟨ls, e, ht, rfl⟩

lemma reorders : Spelled.Reorders SignedTransaction.encoding :=
  (Transaction.reorders.between _ _ _).congr fun s => by rw [encoding, empty_append]

end SignedTransaction

/-- Whatever is accepted for a value lists certain pairs for each of its maps. It is what is written
for the value if and only if all keys ascend there; what is written is accepted in any case, for
the same value. -/
def Reencodes (ofBytes : Bytes → Except Error α) (toBytes : α → Except Error Bytes)
    (F : Spelling α) : Prop :=
  ∀ bs a, ofBytes bs = .ok a → ∃ ls, (∀ ls', F.Lists a bs ls' ↔ ls' = ls) ∧
    (toBytes a = .ok bs ↔ ∀ ps ∈ ls, ps.Ascends) ∧
    ∃ bs', toBytes a = .ok bs' ∧ ofBytes bs' = .ok a

lemma Spelling.Reorders.reencodes {F : Spelling α} {w : α → Encoding} {r : Reader α} {d : Nat}
    (hF : F.Reorders w) (hr : Yields d F.Any r) (hi : Inverts r w) :
    Reencodes (Reader.whole r) (fun a => (w a).toBytes) F := by
  intro bs a h
  obtain ⟨e, ⟨ls, he⟩, hbs⟩ := hr.whole_ok h
  have hl : F.Lists a bs ls := ⟨e, he, hbs⟩
  obtain ⟨bs', hbs'⟩ := hF.writable he ⟨bs, hbs⟩
  refine ⟨ls, fun ls' => ⟨fun hl' => hF.lists_unique hl' hl, ?_⟩, hF.toBytes_iff hl,
    bs', hbs', (hi a bs' hbs').whole⟩
  rintro rfl
  exact hl

/-- **Re-encoding.** What is read as a transaction, a signed transaction or a signed delegation is
written again as it was unless a map in it has its pairs out of order, and then as bytes that are
read as the same value. -/
theorem accepted_reencodes :
    Reencodes Transaction.ofBytes Transaction.toBytes Transaction.Spelled ∧
    Reencodes SignedTransaction.ofBytes SignedTransaction.toBytes SignedTransaction.Spelled ∧
    Reencodes SignedDelegate.ofBytes SignedDelegate.toBytes SignedDelegate.Spelled :=
  ⟨Transaction.reorders.reencodes Transaction.yields_read Transaction.inverts,
    SignedTransaction.reorders.reencodes SignedTransaction.yields_read SignedTransaction.inverts,
    SignedDelegate.reorders.reencodes SignedDelegate.yields_read SignedDelegate.inverts⟩

namespace Transaction

/-- Founds an account with two pairs of data. -/
def founding : Transaction :=
  { relaying with actions := [.direct (.stateInit ⟨.publisher relaying.signer,
    .ofPairs [([1], []), ([2], [3])]⟩ .zero)] }

/-- The same with the later key in front. -/
def foundingShuffled : Encoding :=
  founding.front ++ (Encoding.tag 11
    ++ (Encoding.tag 0 ++ (ContractId.publisher founding.signer).encoding
      ++ sequence StateInit.pairEncoding [([2], [3]), ([1], [])])
    ++ (Amount.zero : Token).encoding)

theorem founding_reencodes :
    ofBytes foundingShuffled.bytes = .ok founding ∧
    founding.toBytes ≠ .ok foundingShuffled.bytes ∧
    ∃ bs, founding.toBytes = .ok bs ∧ ofBytes bs = .ok founding := by
  have h : ofBytes foundingShuffled.bytes = .ok founding := by
    have ho : (ofBytes foundingShuffled.bytes).toOption = some founding := by decide +kernel
    cases hx : ofBytes foundingShuffled.bytes <;> simp_all [Except.toOption]
  obtain ⟨ls, -, -, hagain⟩ := accepted_reencodes.1 _ _ h
  refine ⟨h, fun hw => ?_, hagain⟩
  have ho : founding.toBytes.toOption = some foundingShuffled.bytes := by rw [hw]; rfl
  exact absurd ho (by decide +kernel)

end Transaction

end LedgerClient
