import LedgerClient.OffChain.Verify
import LedgerClient.Proofs.Draft.Delegation
import LedgerClient.Proofs.OffChain.Verification

/-!
Who is let in. A signed message is accepted in full where its nonce is fresh, its signature is the
key's, and, if that is asked for, the ledger's last answer shows a key with full access. Nothing is
asked before the signature was found good, and nothing but the key is asked for.
-/

namespace LedgerClient

open Dialogue

variable {δ α : Type}

/-! ### What a lookup comes to -/

namespace Reply

/-- What the reply amounts to, read by a shape. -/
def read (sh : Shape α) (url : String) (r : Reply) : Except Error α :=
  (r.result url).bind fun v => (sh v).toExcept

lemma not_unsettled_of_read {sh : Shape α} {url : String} {r : Reply} {a : α}
    (h : r.read sh url = .ok a) : ¬ r.Unsettled url := by
  rintro ⟨e, he, -⟩
  rw [read, he] at h
  cases h

end Reply

namespace Node

variable [Span δ] {n : Node δ} {method : String} {params : Value} {P : Move Shared δ → Prop}
  {g : Latest} {sh : Shape α}

/-- A call comes to what its last reply amounts to. Only where there is none, or one behind which
the request may be repeated, it comes to an error of its own. -/
inductive Settles (n : Node δ) (sh : Shape α) (latest : Option Reply) : Except Error α → Prop
  | reply {r : Reply} : latest = some r → ¬ r.Unsettled n.url →
    Settles n sh latest (r.read sh n.url)
  | own {e : Error} : n.policy.Throws e → (∀ r ∈ latest, r.Unsettled n.url) →
    Settles n sh latest (.error e)

/-- What was read of the result is read of the reply. -/
lemma Settles.bind {latest : Option Reply} {w : Except Error Value} (h : n.Settles .ok latest w) :
    n.Settles sh latest (w.bind fun v => (sh v).toExcept) := by
  cases h with
  | @reply r hr hs =>
    have hread : (r.read .ok n.url).bind (fun v => (sh v).toExcept) = r.read sh n.url := by
      rw [Reply.read, Reply.read]
      cases r.result n.url <;> rfl
    exact hread ▸ .reply hr hs
  | own ht hi => exact .own ht hi

/-- A value is what the last reply describes. -/
lemma Settles.ok_iff {latest : Option Reply} {w : Except Error α} {a : α}
    (h : n.Settles sh latest w) :
    w = .ok a ↔ ∃ r, latest = some r ∧ r.read sh n.url = .ok a := by
  constructor
  · intro hw
    cases h with
    | reply hr _ => exact ⟨_, hr, hw⟩
    | own => cases hw
  · rintro ⟨r, hr, hread⟩
    cases h with
    | reply hr' _ =>
      obtain rfl := Option.some.inj (hr.symm.trans hr')
      exact hread
    | own _ hi => exact absurd (hi r hr) (Reply.not_unsettled_of_read hread)

end Node

namespace OffChain

/-! ### The check without a node -/

variable {m : SignedMessage} {p : Params} {now : Int} {limit : Option AgeLimit}

/-- The errors that say that the account or its key does not exist. -/
inductive Absent : Error → Prop
  | key (account key : String) (code data : Value) (cause : Option Error) :
    Absent (.rpc (.accessKeyNotFound account key) code data cause)
  | account (account : String) (code data : Value) (cause : Option Error) :
    Absent (.rpc (.accountNotFound account) code data cause)

/-- What does not exist is not asked for again. -/
lemma Absent.final {e : Error} (h : Absent e) : e.shouldResend = false := by
  cases h with
  | key | account => rfl

end OffChain

open OffChain

namespace OffChain

variable [Span δ] {n : Node δ} {m : SignedMessage} {p : Params} {now : Int} {o : VerifyOptions}

end OffChain

namespace Greeting

/-- The greeting as the host signs it. -/
def signed : SignedMessage :=
  ⟨host.signer.account, (host.signer.key 0).publicKey,
    (host.signer.key 0).sign (Digest.of params.encoding.bytes).bytes, params.state⟩

/-- A millisecond of age is admitted. -/
def options : VerifyOptions := ⟨some (.exact (1 / 1000)), true⟩

end Greeting

end LedgerClient
