import LedgerClient.Node.Call
import Mathlib.Tactic.Common

/-!
Rejected nonces. Whatever a node answers, it is taken for the rejection of a nonce only where it
names the nonce that the ledger knows as a whole number.
-/

namespace LedgerClient

/-- A reply that rejects a nonce names the ledger's. -/
def Reply.NamesLedger (r : Reply) : Prop :=
  ∀ url e ledgers, r.result url = .error e → e.rejection? = some ledgers →
    ledgers.whole?.isSome

namespace Report

variable {tx ak : Value}

lemma nonceOf_names {part : Members} (h : nonceOf part = some (.invalidNonce tx ak)) :
    ak.whole?.isSome := by
  simp only [nonceOf] at h
  split at h
  · rename_i hw
    simp only [Option.some.injEq, Failure.invalidNonce.injEq] at h
    rw [← h.2]
    exact (Bool.and_eq_true_iff.1 hw).2
  · cases h

lemma invalidNonce?_names {data : Value} (h : invalidNonce? data = some (.invalidNonce tx ak)) :
    ak.whole?.isSome := by
  unfold invalidNonce? at h
  split at h
  · split at h
    · split at h
      · exact nonceOf_names h
      · cases h
    · cases h
  · cases h

lemma rejection_names {message data : Value} (h : rejection message data = .invalidNonce tx ak) :
    ak.whole?.isSome := by
  unfold rejection at h
  split at h
  · rename_i f hf
    exact invalidNonce?_names (h ▸ hf)
  · split at h <;> cases h

/-- No other cause stands for the rejection of a nonce. -/
lemma ofCause_names {c : Cause} {info : Members} {message data : Value}
    (h : ofCause c info message data = .ok (some (.invalidNonce tx ak))) : ak.whole?.isSome := by
  cases c with
  | invalidTransaction =>
    simp only [ofCause, Except.ok.injEq, Option.some.injEq] at h
    exact rejection_names h
  | unknownAccessKey =>
    simp only [ofCause, Except.ok.injEq] at h
    split at h <;> simp at h
  | contractExecution =>
    simp only [ofCause, callFailure] at h
    split at h
    · split at h
      · simp [Except.map] at h
      · split at h <;> simp [Except.map] at h
    · simp at h
  | _ => simp [ofCause] at h

/-- The particulars of a cause can be of the wrong kind, and nothing else is wrong with them. -/
lemma ofCause_error {c : Cause} {info : Members} {message data : Value} {e : Error}
    (h : ofCause c info message data = .error e) : e = .wrongKind := by
  cases c with
  | contractExecution =>
    simp only [ofCause, callFailure] at h
    split at h
    · split at h
      · simp [Except.map] at h
      · split at h <;> simp [Except.map] at h
        exact h.symm
    · simp at h
  | _ => simp [ofCause] at h

lemma classifyCause_spec (r : Report) :
    r.classifyCause = .ok none ∨ ∃ c info, r.classifyCause = ofCause c info r.message r.data := by
  unfold classifyCause
  cases namedCause? r.cause with
  | none => exact .inl rfl
  | some p => exact .inr ⟨p.1, p.2, rfl⟩

lemma toError_names {r : Report} {ledgers : Value} (h : r.toError.rejection? = some ledgers) :
    ledgers.whole?.isSome := by
  rw [toError, classify] at h
  cases hc : r.classifyCause with
  | error e =>
    rcases r.classifyCause_spec with hn | ⟨c, info, ho⟩
    · cases hn.symm.trans hc
    · obtain rfl := ofCause_error (ho.symm.trans hc)
      rw [hc] at h
      cases h
  | ok f =>
    rw [hc] at h
    cases f with
    | none =>
      simp only [bind, Except.bind] at h
      cases hm : missingAccount? r.data with
      | none | some a =>
        rw [hm] at h
        cases h
    | some f =>
      rcases r.classifyCause_spec with hn | ⟨c, info, ho⟩
      · cases hn.symm.trans hc
      · cases f with
        | invalidNonce tx ak =>
          obtain rfl := Option.some.inj h
          exact ofCause_names (ho.symm.trans hc)
        | _ => cases h

lemma errorOf_names {v ledgers : Value} (h : (errorOf v).rejection? = some ledgers) :
    ledgers.whole?.isSome := by
  cases v with
  | object ms => exact toError_names h
  | _ => cases h

end Report

namespace Reply

lemma envelope_names {v ledgers : Value} {e : Error} (h : envelope v = .error e)
    (he : e.rejection? = some ledgers) : ledgers.whole?.isSome := by
  unfold envelope at h
  split at h
  · split at h
    · obtain rfl := Except.error.inj h
      exact Report.errorOf_names he
    · split at h
      · cases h
      · obtain rfl := Except.error.inj h
        cases he
  · obtain rfl := Except.error.inj h
    cases he

/-- **Named nonces.** A reply rejects a nonce without naming the ledger's only where that error was
raised as it is. -/
theorem namesLedger {r : Reply} (h : ∀ e, r = .raised e → e.rejection? = none) :
    r.NamesLedger := by
  intro url e ledgers hr he
  cases r with
  | raised e' =>
    obtain rfl := Except.error.inj hr
    rw [h e' rfl] at he
    cases he
  | answer status body =>
    rw [result] at hr
    split at hr
    · obtain rfl := Except.error.inj hr
      cases he
    · split at hr
      · exact envelope_names hr he
      · obtain rfl := Except.error.inj hr
        cases he
      · rename_i hbody
        obtain rfl := Except.error.inj hr
        rcases Json.parse_error hbody with ⟨f, -, rfl⟩ | rfl <;> cases he
  | timedOut | unreachable m | failed m =>
    obtain rfl := Except.error.inj hr
    cases he

end Reply

end LedgerClient
