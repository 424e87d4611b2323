import LedgerClient.Proofs.Node.Outcome

/-!
Errors after which the very same request is sent again. What decides is what came back: the
transport failed for now, the status says so, or the report of the node names a cause that passes.
The code of a report counts only where neither its cause nor the wording of its data says what went
wrong.
-/

namespace LedgerClient

/-! ### Causes by name -/

namespace Cause

def name : Cause → String
  | unknownAccount => "UNKNOWN_ACCOUNT"
  | invalidAccount => "INVALID_ACCOUNT"
  | unknownAccessKey => "UNKNOWN_ACCESS_KEY"
  | unknownBlock => "UNKNOWN_BLOCK"
  | unknownChunk => "UNKNOWN_CHUNK"
  | unknownEpoch => "UNKNOWN_EPOCH"
  | unknownReceipt => "UNKNOWN_RECEIPT"
  | noContractCode => "NO_CONTRACT_CODE"
  | tooLargeContractState => "TOO_LARGE_CONTRACT_STATE"
  | contractExecution => "CONTRACT_EXECUTION_ERROR"
  | unavailableShard => "UNAVAILABLE_SHARD"
  | noSyncedBlocks => "NO_SYNCED_BLOCKS"
  | notSyncedYet => "NOT_SYNCED_YET"
  | invalidShardId => "INVALID_SHARD_ID"
  | invalidTransaction => "INVALID_TRANSACTION"
  | timeout => "TIMEOUT_ERROR"
  | parse => "PARSE_ERROR"
  | internal => "INTERNAL_ERROR"

lemma name_of_mem_table : ∀ p ∈ table, p.1 = p.2.name := by decide

/-- Each cause has one name. -/
lemma ofName?_eq_some {s : String} {c : Cause} : ofName? s = some c ↔ s = c.name := by
  constructor
  · intro h
    obtain ⟨l, r, ht, -⟩ := List.lookup_eq_some_iff.1 h
    exact name_of_mem_table (s, c) (by simp [ht])
  · rintro rfl
    cases c <;> rfl

/-- The particulars do not suffice for the failure that the cause stands for. -/
def Lacks (info : Members) : Cause → Prop
  | unknownAccount => Report.account? (info.get "requested_account_id") = none
  | unknownAccessKey =>
    Report.account? (info.get "requested_account_id") = none ∨ (info.get "public_key").text? = none
  | noContractCode =>
    Report.account?
      (Report.firstOf info ["contract_account_id", "account_id", "contract_id"]) = none
  | tooLargeContractState =>
    Report.account? (Report.firstOf info ["account_id", "contract_id"]) = none
  | contractExecution => Report.account? (info.get "contract_id") = none
  | _ => False

end Cause

/-! ### Reports -/

lemma Value.isTrue_iff {v : Value} : v.isTrue ↔ v = .bool true := by
  cases v with
  | bool b => cases b <;> simp [Value.isTrue]
  | _ => simp [Value.isTrue]

namespace Report

variable {es : Members} {c : Cause} {info : Members} {message data code : Value}

/-- Data of a transaction that was refused for the state of its shard, and not for its nonce. -/
def IsCrowded (data : Value) : Prop :=
  ∃ ds, data = .object ds ∧ invalidNonce? data = none ∧
    (Members.get ds "ShardCongested" = .bool true ∨ Members.get ds "ShardStuck" = .bool true)

/-- The codes that nodes give to errors of their own. -/
def IsServerCode (code : Value) : Prop :=
  code.number? = some (-32000) ∨ code.number? = some (-32603)

/-- The report names its cause. -/
def Names (es : Members) (name : String) : Prop :=
  ∃ cs, es.get "cause" = .object cs ∧ Members.get cs "name" = .text name

/-- Neither the cause nor the wording of the data selects a failure. -/
def Unclassified (es : Members) : Prop :=
  (∀ c info, namedCause? (es.get "cause") = some (c, info) → c.Lacks info) ∧
    missingAccount? (es.get "data") = none

/-- What is reported may have passed when the same request comes again. -/
inductive Transient (es : Members) : Prop
  | cause {name : String} : Names es name →
    name ∈ ["UNAVAILABLE_SHARD", "NO_SYNCED_BLOCKS", "NOT_SYNCED_YET", "TIMEOUT_ERROR",
      "INTERNAL_ERROR"] → Transient es
  | crowded : Names es "INVALID_TRANSACTION" → IsCrowded (es.get "data") → Transient es
  | code : Unclassified es → IsServerCode (es.get "code") → Transient es

end Report

namespace Cause

/-- Passes by itself; a refused transaction does so if its data says that. -/
def IsPassing (data : Value) : Cause → Prop
  | unavailableShard | noSyncedBlocks | notSyncedYet | timeout | internal => True
  | invalidTransaction => Report.IsCrowded data
  | _ => False

lemma Lacks.not_isPassing {c : Cause} {info : Members} {data : Value} (h : c.Lacks info) :
    ¬ c.IsPassing data := by
  cases c <;> first | exact id | exact h.elim

end Cause

namespace Report

variable {es : Members} {c : Cause} {info : Members} {message data code : Value}

lemma names_iff : Names es c.name ↔ ∃ info, namedCause? (es.get "cause") = some (c, info) := by
  constructor
  · rintro ⟨cs, hc, hn⟩
    rw [hc]
    simp only [namedCause?, hn, Cause.ofName?_eq_some.2 rfl]
    exact ⟨_, rfl⟩
  · rintro ⟨info, h⟩
    unfold namedCause? at h
    split at h
    · rename_i cs hc
      split at h
      · rename_i s hs
        obtain ⟨d, hd, hp⟩ := Option.map_eq_some_iff.1 h
        obtain ⟨rfl, -⟩ := Prod.mk.inj hp
        exact ⟨cs, hc, Cause.ofName?_eq_some.1 hd ▸ hs⟩
      · cases h
    · cases h

/-- A named cause decides alone, and without one the code does. -/
lemma transient_iff : Transient es ↔
    (∃ c info, namedCause? (es.get "cause") = some (c, info) ∧ c.IsPassing (es.get "data")) ∨
    (Unclassified es ∧ IsServerCode (es.get "code")) := by
  have named {c : Cause} (h : Names es c.name) (hp : c.IsPassing (es.get "data")) :
      ∃ c info, namedCause? (es.get "cause") = some (c, info) ∧ c.IsPassing (es.get "data") := by
    obtain ⟨info, hc⟩ := names_iff.1 h
    exact ⟨c, info, hc, hp⟩
  constructor
  · rintro (@⟨name, hn, hm⟩ | ⟨hn, hd⟩ | ⟨hu, hc⟩)
    · simp only [List.mem_cons, List.not_mem_nil, or_false] at hm
      rcases hm with rfl | rfl | rfl | rfl | rfl
      · exact .inl (named (c := .unavailableShard) hn trivial)
      · exact .inl (named (c := .noSyncedBlocks) hn trivial)
      · exact .inl (named (c := .notSyncedYet) hn trivial)
      · exact .inl (named (c := .timeout) hn trivial)
      · exact .inl (named (c := .internal) hn trivial)
    · exact .inl (named (c := .invalidTransaction) hn hd)
    · exact .inr ⟨hu, hc⟩
  · rintro (⟨c, info, hc, hp⟩ | ⟨hu, hc⟩)
    · have hn : Names es c.name := names_iff.2 ⟨info, hc⟩
      cases c with
      | unavailableShard | noSyncedBlocks | notSyncedYet | timeout | internal =>
        exact .cause hn (by simp [Cause.name])
      | invalidTransaction => exact .crowded hn hp
      | _ => exact hp.elim
    · exact .code hu hc

lemma transient_iff_of_named (hn : namedCause? (es.get "cause") = some (c, info)) :
    Transient es ↔ c.IsPassing (es.get "data") ∨
      (c.Lacks info ∧ missingAccount? (es.get "data") = none) ∧ IsServerCode (es.get "code") := by
  rw [transient_iff, Unclassified]
  simp [hn]

/-! ### What a report stands for -/

lemma ofCause_none_iff : ofCause c info message data = .ok none ↔ c.Lacks info := by
  cases c with
  | unknownAccessKey =>
    simp only [ofCause, Cause.Lacks]
    cases account? (info.get "requested_account_id") with
    | none => simp
    | some a => cases info.get "public_key" <;> simp [Value.text?]
  | contractExecution =>
    simp only [ofCause, Cause.Lacks]
    cases account? (info.get "contract_id") with
    | none => simp
    | some a => cases hf : callFailure a.text (info.get "method_name") message <;>
        simp [Except.map, hf]
  | _ => simp [ofCause, Cause.Lacks]

lemma callFailure_ok {contract : String} {method : Value} {f : Failure}
    (h : callFailure contract method message = .ok f) :
    f = .contractFailed contract method message := by
  unfold callFailure at h
  split at h
  · exact (Except.ok.inj h).symm
  · split at h
    · cases h
    · exact (Except.ok.inj h).symm

lemma invalidNonce?_eq_some {f : Failure} (h : invalidNonce? data = some f) :
    ∃ tx ak, f = .invalidNonce tx ak := by
  unfold invalidNonce? at h
  split at h
  · split at h
    · split at h
      · rw [nonceOf] at h
        split at h
        · exact ⟨_, _, (Option.some.inj h).symm⟩
        · cases h
      · cases h
    · cases h
  · cases h

/-- A refused transaction is sent again as its data says, unless a nonce was found in it. -/
lemma rejection_shouldResend :
    (Error.rpc (rejection message data) code data none).shouldResend ↔ IsCrowded data := by
  unfold rejection IsCrowded
  cases hn : invalidNonce? data with
  | some f =>
    obtain ⟨tx, ak, rfl⟩ := invalidNonce?_eq_some hn
    simp [Error.shouldResend]
  | none =>
    cases data with
    | object ds =>
      simp [Error.shouldResend, Error.isRetryable, Failure.isRetryable, Value.isTrue_iff]
    | _ => simp [Error.shouldResend, Error.isRetryable, Failure.isRetryable]

/-- A failure that a cause stands for is worth another request if the cause passes. -/
lemma ofCause_shouldResend {f : Failure} (h : ofCause c info message data = .ok (some f)) :
    (Error.rpc f code data none).shouldResend ↔ c.IsPassing data := by
  cases c with
  | invalidTransaction =>
    obtain rfl := Option.some.inj (Except.ok.inj h)
    exact rejection_shouldResend
  | unknownAccount | noContractCode | tooLargeContractState =>
    simp only [ofCause, Except.ok.injEq, Option.map_eq_some_iff] at h
    obtain ⟨a, -, rfl⟩ := h
    simp [Cause.IsPassing, Error.shouldResend, Error.isRetryable, Failure.isRetryable]
  | unknownAccessKey =>
    simp only [ofCause, Except.ok.injEq] at h
    split at h
    · obtain rfl := Option.some.inj h
      simp [Cause.IsPassing, Error.shouldResend, Error.isRetryable, Failure.isRetryable]
    · cases h
  | contractExecution =>
    simp only [ofCause] at h
    split at h
    · obtain ⟨g, hg, hf⟩ := of_map_ok h
      obtain rfl := Option.some.inj hf
      simp [callFailure_ok hg, Cause.IsPassing, Error.shouldResend, Error.isRetryable,
        Failure.isRetryable]
    · cases h
  | _ =>
    obtain rfl := Option.some.inj (Except.ok.inj h)
    simp [Cause.IsPassing, Error.shouldResend, Error.isRetryable, Failure.isRetryable]

/-- Where no cause selects a failure, an old wording does, or else the code counts. -/
lemma toError_shouldResend_of_none (h : (ofMembers es).classifyCause = .ok none) :
    (ofMembers es).toError.shouldResend ↔
      missingAccount? (es.get "data") = none ∧ IsServerCode (es.get "code") := by
  have hd : (ofMembers es).data = es.get "data" := rfl
  have hc : (ofMembers es).code = es.get "code" := rfl
  rw [toError, classify, h]
  simp only [bind, Except.bind, hd, hc]
  cases missingAccount? (es.get "data") with
  | some a => simp [pure, Except.pure, Error.shouldResend, Error.isRetryable, Failure.isRetryable]
  | none =>
    simp [pure, Except.pure, Error.shouldResend, Error.isRetryable, Failure.isRetryable,
      IsServerCode]

lemma toError_of_cause {f : Failure} (h : (ofMembers es).classifyCause = .ok (some f)) :
    (ofMembers es).toError = .rpc f (es.get "code") (es.get "data") none := by
  rw [toError, classify, h]
  rfl

/-- **Reports.** The error of a report leads to another request just if the report is transient. -/
theorem toError_shouldResend (es : Members) :
    (ofMembers es).toError.shouldResend ↔ Transient es := by
  have hr : (ofMembers es).cause = es.get "cause" := rfl
  cases hn : namedCause? (es.get "cause") with
  | none =>
    have hcause : (ofMembers es).classifyCause = .ok none := by rw [classifyCause, hr, hn]
    simp [toError_shouldResend_of_none hcause, transient_iff, Unclassified, hn]
  | some p =>
    obtain ⟨c, info⟩ := p
    have hcause : (ofMembers es).classifyCause =
        ofCause c info (ofMembers es).message (es.get "data") := by
      rw [classifyCause, hr, hn]
      rfl
    rw [transient_iff_of_named hn]
    cases ho : ofCause c info (ofMembers es).message (es.get "data") with
    | error e =>
      obtain rfl := ofCause_error ho
      obtain ⟨rfl, ha, -⟩ := ofCause_error_iff.1 ⟨_, ho⟩
      have he : (ofMembers es).toError = Error.wrongKind := by
        rw [toError, classify, hcause, ho]
        rfl
      rw [he]
      simp [Cause.IsPassing, Cause.Lacks, Option.isSome_iff_ne_none.1 ha, Error.shouldResend,
        Error.isRetryable]
    | ok f =>
      rw [ho] at hcause
      cases f with
      | none =>
        have hl := ofCause_none_iff.1 ho
        rw [toError_shouldResend_of_none hcause]
        simp [hl, hl.not_isPassing]
      | some f =>
        have hl : ¬ c.Lacks info := fun hl => by cases ho.symm.trans (ofCause_none_iff.2 hl)
        rw [toError_of_cause hcause, ofCause_shouldResend ho]
        simp [hl]

/-- Reports that say what went wrong are told apart by cause and data alone. -/
lemma transient_congr {es' : Members} (hu : ¬ Unclassified es)
    (hc : es'.get "cause" = es.get "cause") (hd : es'.get "data" = es.get "data") :
    Transient es' ↔ Transient es := by
  have hu' : ¬ Unclassified es' := by rwa [Unclassified, hc, hd]
  simp only [transient_iff, hu, hu', hc, hd, false_and, or_false]

end Report

/-! ### Replies -/

namespace Reply

/-- An answer with the report of an error. -/
def Reports (es : Members) (r : Reply) : Prop :=
  ∃ body ms, r = .answer 200 body ∧ Json.parse body = .ok (.object ms) ∧
    Members.get ms "error" = .object es

/-- What came back may have passed when the same request comes again. -/
inductive Transient : Reply → Prop
  | timedOut : Transient .timedOut
  | unreachable (message : String) : Transient (.unreachable message)
  | status {status : Int} (body : String) :
    status = 408 ∨ status = 429 ∨ (500 ≤ status ∧ status ≤ 599) → Transient (.answer status body)
  | report {r : Reply} {es : Members} : r.Reports es → Report.Transient es → Transient r

variable {r : Reply} {es : Members} {url : String} {e : Error} {body : String}

lemma Reports.result_eq (h : r.Reports es) (url : String) :
    r.result url = .error (Report.ofMembers es).toError := by
  obtain ⟨body, ms, rfl, hb, he⟩ := h
  rw [result_parsed hb url, envelope, he]
  rfl

lemma Reports.unique {es' : Members} (h : r.Reports es) (h' : r.Reports es') : es = es' := by
  obtain ⟨body, ms, rfl, hb, he⟩ := h
  obtain ⟨body', ms', hr, hb', he'⟩ := h'
  obtain rfl : body = body' := by simpa using hr
  obtain rfl : ms = ms' := by simpa [hb] using hb'
  simpa [he] using he'

/-- Of the answers that arrived well, a report decides by what it says. -/
lemma Reports.transient_iff (h : r.Reports es) : r.Transient ↔ Report.Transient es := by
  constructor
  · intro ht
    cases ht with
    | timedOut | unreachable m =>
      obtain ⟨_, _, hr, -⟩ := h
      cases hr
    | status body hs =>
      obtain ⟨_, _, hr, -⟩ := h
      obtain ⟨rfl, -⟩ := Reply.answer.inj hr
      omega
    | report h' ht => rwa [h.unique h']
  · exact .report h

lemma not_transient_answer (hn : ∀ es, ¬ (answer 200 body).Reports es) :
    ¬ (answer 200 body).Transient := by
  rintro (_ | _ | ⟨_, hs⟩ | ⟨hr, -⟩)
  · omega
  · exact hn _ hr

lemma envelope_shouldResend {v : Value} (hb : Json.parse body = .ok v)
    (h : envelope v = .error e) : e.shouldResend ↔ (answer 200 body).Transient := by
  have hr : (answer 200 body).result "" = .error e := (result_parsed hb "").trans h
  by_cases hes : ∃ es, (answer 200 body).Reports es
  · obtain ⟨es, hes⟩ := hes
    obtain rfl := Except.error.inj (hr.symm.trans (hes.result_eq ""))
    rw [hes.transient_iff, Report.toError_shouldResend]
  · refine iff_of_false ?_ (not_transient_answer fun es h => hes ⟨es, h⟩)
    -- What is no report is no object, has no result, or has an error that is no object.
    unfold envelope at h
    split at h
    · rename_i ms
      split at h
      · cases he : Members.get ms "error" with
        | object es => exact absurd ⟨es, body, ms, rfl, hb, he⟩ hes
        | _ =>
          rw [he] at h
          obtain rfl := Except.error.inj h
          exact Bool.false_ne_true
      · split at h
        · cases h
        · obtain rfl := Except.error.inj h
          exact Bool.false_ne_true
    · obtain rfl := Except.error.inj h
      exact Bool.false_ne_true

lemma status_shouldResend {status : Int} (hs : status ≠ 200) :
    (Error.request (.http status body) none).shouldResend ↔ (answer status body).Transient := by
  have hiff : (Error.request (.http status body) none).shouldResend ↔
      status = 408 ∨ status = 429 ∨ (500 ≤ status ∧ status ≤ 599) := by
    simp [Error.shouldResend, Error.isRetryable, Failure.isRetryable]
    omega
  rw [hiff]
  constructor
  · exact .status body
  · rintro (_ | _ | ⟨_, h⟩ | ⟨hr, -⟩)
    · exact h
    · obtain ⟨_, _, hr, -⟩ := hr
      exact absurd (Reply.answer.inj hr).1 hs

/-- What is not JSON reports nothing, and is not sent again. -/
lemma unparsed_shouldResend {x : Error} (url : String) (hb : Json.parse body = .error x)
    (h : (answer 200 body).result url = .error e) :
    e.shouldResend ↔ (answer 200 body).Transient := by
  have hn (es : Members) : ¬ (answer 200 body).Reports es := by
    rintro ⟨_, _, hr, hb', -⟩
    obtain rfl := (Reply.answer.inj hr).2
    cases hb.symm.trans hb'
  refine iff_of_false ?_ (not_transient_answer hn)
  simp only [result, hb] at h
  rcases Json.parse_error hb with ⟨f, hf, rfl⟩ | rfl
  · cases Json.strain?_isStrain hf <;>
    · obtain rfl := Except.error.inj h
      exact Bool.false_ne_true
  · obtain rfl := Except.error.inj h
    exact Bool.false_ne_true

/-- Whatever came back, its error leads to another request just if it is transient. -/
lemma result_shouldResend (hr : r.IsPlain) (h : r.result url = .error e) :
    e.shouldResend ↔ r.Transient := by
  cases r with
  | raised e' => exact hr.elim
  | timedOut =>
    obtain rfl := Except.error.inj h
    exact iff_of_true rfl .timedOut
  | unreachable m =>
    obtain rfl := Except.error.inj h
    exact iff_of_true rfl (.unreachable m)
  | failed m =>
    obtain rfl := Except.error.inj h
    refine iff_of_false Bool.false_ne_true ?_
    rintro (_ | _ | _ | ⟨⟨_, _, hr, -⟩, -⟩)
    cases hr
  | answer status body =>
    rw [result] at h
    split at h
    · rename_i hs
      obtain rfl := Except.error.inj h
      exact status_shouldResend hs
    · rename_i hs
      obtain rfl : status = 200 := by omega
      cases hb : Json.parse body with
      | ok v =>
        rw [hb] at h
        exact envelope_shouldResend hb h
      | error x => exact unparsed_shouldResend url hb h

/-- A nonce that was found in a refused transaction is the error, and asks for a new signature. -/
lemma Reports.invalidNonce {f : Failure} (h : r.Reports es)
    (hn : Report.Names es "INVALID_TRANSACTION")
    (hf : Report.invalidNonce? (es.get "data") = some f) :
    r.result url = .error (.rpc f (es.get "code") (es.get "data") none) := by
  obtain ⟨info, hc⟩ := (Report.names_iff (c := .invalidTransaction)).1 hn
  have hcause : (Report.ofMembers es).classifyCause = .ok (some f) := by
    rw [Report.classifyCause, show (Report.ofMembers es).cause = es.get "cause" from rfl, hc]
    show Report.ofCause .invalidTransaction info _ (es.get "data") = _
    simp only [Report.ofCause, Report.rejection, hf]
  rw [h.result_eq url, Report.toError_of_cause hcause]

/-- **Repeated requests.** The error that a reply amounts to leads to the same request again just if
the reply is transient. A nonce that was found in a refused transaction never does so; and of a
report that says what went wrong, neither code nor message makes a difference. -/
theorem shouldResend_iff_transient (r : Reply) (url : String) (e : Error) (hr : r.IsPlain)
    (h : r.result url = .error e) :
    (e.shouldResend ↔ r.Transient) ∧
    (∀ es f, r.Reports es → Report.Names es "INVALID_TRANSACTION" →
      Report.invalidNonce? (es.get "data") = some f →
      e = .rpc f (es.get "code") (es.get "data") none ∧ e.shouldResend = false) ∧
    ∀ es, r.Reports es → ¬ Report.Unclassified es → ∀ (r' : Reply) url' es', r'.Reports es' →
      es'.get "cause" = es.get "cause" → es'.get "data" = es.get "data" →
      ∃ e', r'.result url' = .error e' ∧ e'.shouldResend = e.shouldResend := by
  refine ⟨result_shouldResend hr h, fun es f hes hn hf => ?_,
    fun es hes hu r' url' es' hes' hc hd => ?_⟩
  · obtain rfl := Except.error.inj (h.symm.trans (hes.invalidNonce hn hf))
    obtain ⟨tx, ak, rfl⟩ := Report.invalidNonce?_eq_some hf
    exact ⟨rfl, rfl⟩
  · obtain rfl := Except.error.inj (h.symm.trans (hes.result_eq url))
    refine ⟨_, hes'.result_eq url', Bool.eq_iff_iff.2 ?_⟩
    rw [Report.toError_shouldResend, Report.toError_shouldResend, Report.transient_congr hu hc hd]

open Gifts in
set_option maxRecDepth 2000 in
/-- A node that has no time is asked again, and the rejection of a nonce is not. -/
theorem rejection_not_resent : ∃ e e',
    IsPlain rejectionReply ∧ rejectionReply.result "" = .error e ∧ e.shouldResend = false ∧
    IsPlain (.answer 429 "") ∧ (answer 429 "").result "" = .error e' ∧ e'.shouldResend := by
  have h : ∃ es, rejectionReply.Reports es ∧ Report.Names es "INVALID_TRANSACTION" ∧
      Report.invalidNonce? (es.get "data") = some (.invalidNonce (.int 42) (.int 42)) :=
    ⟨_, ⟨_, _, rfl, rfl, rfl⟩, ⟨_, rfl, rfl⟩, rfl⟩
  obtain ⟨es, hes, hn, hf⟩ := h
  have hr : rejectionReply.result "" = _ := hes.invalidNonce hn hf
  have hrejected := (shouldResend_iff_transient rejectionReply "" _ trivial hr).2.1 es _ hes hn hf
  have hbusy := (shouldResend_iff_transient (.answer 429 "") "" _ trivial rfl).1
  exact ⟨_, _, trivial, hr, hrejected.2, trivial, rfl, hbusy.2 (.status "" (.inr (.inl rfl)))⟩

end Reply

end LedgerClient
