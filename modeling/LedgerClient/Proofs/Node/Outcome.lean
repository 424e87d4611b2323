import LedgerClient.Proofs.Draft.Renewal
import LedgerClient.Proofs.Json.Progress
import LedgerClient.Proofs.Node.Latest

/-!
What a call to a node comes to. Parameters that cannot be written end it before its first request.
Else the last reply decides: a result, an error of the request, or, on three kinds of answers that
the client stumbles over, a fault of the host.
-/

namespace LedgerClient

open Dialogue

variable {δ : Type}

/-- The error of a request to a node. -/
def Error.OfRequest : Error → Prop
  | .rpc .. => True
  | _ => False

/-! ### Reports -/

namespace Report

/-- The report of a failed call, in which the method is named by something other than text. -/
def NamesNoMethod (es : Members) : Prop :=
  ∃ info, namedCause? (es.get "cause") = some (.contractExecution, info) ∧
    (account? (info.get "contract_id")).isSome ∧ (info.get "method_name").isTruthy ∧
    (info.get "method_name").text? = none

lemma callFailure_error (contract : String) (method message : Value) :
    (∃ e, callFailure contract method message = .error e) ↔
      method.isTruthy ∧ method.text? = none := by
  cases method with
  | text s => simp [callFailure, Value.text?]
  | _ =>
    simp only [callFailure, Value.text?, and_true]
    split <;> simp_all

/-- No other particulars of a cause are misread. -/
lemma ofCause_error_iff {c : Cause} {info : Members} {message data : Value} :
    (∃ e, ofCause c info message data = .error e) ↔ c = .contractExecution ∧
      (account? (info.get "contract_id")).isSome ∧ (info.get "method_name").isTruthy ∧
      (info.get "method_name").text? = none := by
  cases c with
  | contractExecution =>
    simp only [ofCause, true_and]
    cases account? (info.get "contract_id") with
    | none => simp
    | some a =>
      simp only [Option.isSome_some, true_and, ← callFailure_error a.text _ message]
      cases callFailure a.text (info.get "method_name") message <;> simp [Except.map]
  | _ => simp [ofCause]

lemma classifyCause_error_iff (es : Members) :
    (∃ e, (ofMembers es).classifyCause = .error e) ↔ NamesNoMethod es := by
  have hc : (ofMembers es).cause = es.get "cause" := rfl
  simp only [classifyCause, hc, NamesNoMethod]
  cases namedCause? (es.get "cause") with
  | none => simp
  | some p =>
    obtain ⟨c, info⟩ := p
    simp only [ofCause_error_iff, Option.some.injEq, Prod.mk.injEq]
    constructor
    · rintro ⟨rfl, h⟩
      exact ⟨info, ⟨rfl, rfl⟩, h⟩
    · rintro ⟨_, ⟨rfl, rfl⟩, h⟩
      exact ⟨rfl, h⟩

/-- A report stands for an error of the request, unless its method is misread. -/
lemma toError_spec (es : Members) :
    ((ofMembers es).toError.OfRequest ∧ ¬ NamesNoMethod es) ∨
    ((ofMembers es).toError = .wrongKind ∧ NamesNoMethod es) := by
  have hiff := classifyCause_error_iff es
  rw [toError, classify]
  cases h : (ofMembers es).classifyCause with
  | error e =>
    rcases (ofMembers es).classifyCause_spec with hn | ⟨c, info, ho⟩
    · cases hn.symm.trans h
    · obtain rfl := ofCause_error (ho.symm.trans h)
      exact .inr ⟨rfl, hiff.1 ⟨_, h⟩⟩
  | ok f =>
    rw [h] at hiff
    refine .inl ⟨?_, fun hm => by simpa using hiff.2 hm⟩
    cases f with
    | some f => exact True.intro
    | none =>
      simp only [bind, Except.bind]
      cases missingAccount? (ofMembers es).data <;> exact True.intro

end Report

/-! ### Replies -/

namespace Reply

/-- An answer without an error, and with a result. -/
def Carries (v : Value) (r : Reply) : Prop :=
  ∃ body ms, r = .answer 200 body ∧ Json.parse body = .ok (.object ms) ∧
    (Members.get ms "error").isNull ∧ ms.lookup "result" = some v

/-- Answers that the client does not come to terms with, and the fault that each one leads to. -/
inductive Trips : Reply → Fault → Prop
  /-- The body has an overlong number, or so many lists and objects within one another. -/
  | strained {body : String} {f : Fault} : Json.strain? body = some f →
    Trips (.answer 200 body) f
  /-- The error is no object. -/
  | bare {body : String} {ms : Members} : Json.parse body = .ok (.object ms) →
    (Members.get ms "error").isNull = false → (Members.get ms "error").members? = none →
    Trips (.answer 200 body) .noMember
  | method {body : String} {ms es : Members} : Json.parse body = .ok (.object ms) →
    Members.get ms "error" = .object es → Report.NamesNoMethod es →
    Trips (.answer 200 body) (.wrongKind none)

/-- What a plain reply amounts to. -/
inductive Amounts (r : Reply) : Except Error Value → Prop
  | result {v : Value} : r.Carries v → Amounts r (.ok v)
  | failure {e : Error} : e.OfRequest → (∀ f, ¬ r.Trips f) → Amounts r (.error e)
  | fault {f : Fault} : r.Trips f → Amounts r (.error (.host f))

/-- The transport raised no error that is passed on as it is. -/
def IsPlain : Reply → Prop
  | raised _ => False
  | _ => True

variable {r : Reply} {f : Fault} {v : Value} {e : Error} {body : String}

lemma errorOf_spec :
    ((Report.errorOf v).OfRequest ∧ ∃ es, v = .object es ∧ ¬ Report.NamesNoMethod es) ∨
    (Report.errorOf v = .host .noMember ∧ v.members? = none) ∨
    (Report.errorOf v = .wrongKind ∧ ∃ es, v = .object es ∧ Report.NamesNoMethod es) := by
  cases v with
  | object es =>
    rcases Report.toError_spec es with ⟨h, hm⟩ | ⟨h, hm⟩
    · exact .inl ⟨h, es, rfl, hm⟩
    · exact .inr (.inr ⟨h, es, rfl, hm⟩)
  | _ => exact .inr (.inl ⟨rfl, rfl⟩)

lemma result_parsed (h : Json.parse body = .ok v) (url : String) :
    (answer 200 body).result url = envelope v := by
  simp [result, h]

/-- Whatever trips the client, does so at once. -/
lemma Trips.result_eq (h : r.Trips f) (url : String) : r.result url = .error (.host f) := by
  cases h with
  | strained hb =>
    have hparse := Json.parse_of_strain hb
    cases Json.strain?_isStrain hb <;> simp [result, hparse]
  | @bare body ms hb hn hm =>
    rw [result_parsed hb url, envelope, hn]
    rcases errorOf_spec (v := Members.get ms "error") with ⟨-, es, he, -⟩ | ⟨h, -⟩ | ⟨-, es, he, -⟩
    · simp [he, Value.members?] at hm
    · exact congrArg _ h
    · simp [he, Value.members?] at hm
  | method hb he hm =>
    rw [result_parsed hb url, envelope, he]
    rcases Report.toError_spec _ with ⟨-, hn⟩ | ⟨h, -⟩
    · exact absurd hm hn
    · exact congrArg _ h

lemma amounts_failure {url : String} (h : r.result url = .error e) (he : e.OfRequest) :
    r.Amounts (r.result url) := by
  rw [h]
  refine .failure he fun f hf => ?_
  obtain rfl := Except.error.inj (h.symm.trans (hf.result_eq url))
  exact he

lemma amounts_envelope (hb : Json.parse body = .ok v) (url : String) :
    (answer 200 body).Amounts ((answer 200 body).result url) := by
  cases v with
  | object ms =>
    have hr := result_parsed hb url
    rw [envelope] at hr
    cases hn : (Members.get ms "error").isNull with
    | true =>
      simp only [hn, Bool.not_true, Bool.false_eq_true, if_false] at hr
      cases hl : ms.lookup "result" with
      | some v =>
        rw [hr, hl]
        exact .result ⟨body, ms, rfl, hb, hn, hl⟩
      | none =>
        rw [hl] at hr
        exact amounts_failure hr True.intro
    | false =>
      simp only [hn, Bool.not_false, if_true] at hr
      rcases errorOf_spec (v := Members.get ms "error") with ⟨h, -⟩ | ⟨h, hm⟩ | ⟨h, es, he, hm⟩
      · exact amounts_failure hr h
      · rw [hr, h]
        exact .fault (.bare hb hn hm)
      · rw [hr, h]
        exact .fault (.method hb he hm)
  | _ => exact amounts_failure (result_parsed hb url) True.intro

/-- The spec of a reply. -/
theorem result_amounts (url : String) (hr : r.IsPlain) : r.Amounts (r.result url) := by
  cases r with
  | raised e => exact hr.elim
  | timedOut | unreachable m | failed m => exact amounts_failure rfl True.intro
  | answer status body =>
    by_cases hs : status = 200
    · subst hs
      cases hb : Json.parse body with
      | ok v => exact amounts_envelope hb url
      | error e =>
        rcases Json.parse_error hb with ⟨f, hf, rfl⟩ | rfl
        · rw [(Trips.strained hf).result_eq url]
          exact .fault (.strained hf)
        · have h : (answer 200 body).result url = .error (.request (.invalidResponse
              ("Invalid JSON response: " ++ Json.complaint body)) none) := by
            simp [result, hb]
          exact amounts_failure h True.intro
    · have h : (answer status body).result url = .error (.request (.http status body) none) := by
        simp [result, hs]
      exact amounts_failure h True.intro

end Reply

/-! ### Calls -/

/-- The powers of two that the first thousand pauses need are floats. -/
lemma RetryPolicy.delay_ok (p : RetryPolicy Float) {n : Nat} (h : n < 1024) :
    ∃ w, p.delay n = .ok w := by
  have hp : ∃ q, Decimal.powerOfTwo? n = some q := by
    rw [Decimal.powerOfTwo?, if_neg (by omega), if_pos (by omega)]
    exact ⟨_, rfl⟩
  obtain ⟨q, hq⟩ := hp
  exact ⟨_, by simp only [delay, Span.scale, hq]; rfl⟩

namespace Node

variable {n : Node Float} {method : String}

/-- The outcome is that of the latest reply. -/
def Concluded (method : String) (g : Latest) (w : Except Error Value) : Prop :=
  ∃ r, g method = some r ∧ r.Amounts w

/-- The latest reply is a failure that is no fault. -/
def Failed (method : String) (g : Latest) : Prop :=
  ∃ r, g method = some r ∧ ∀ f, ¬ Reply.Trips r f

section Writable

variable {params : Value} (hc : Json.check params = .ok ())

include hc

lemma attempt_concluded (n : Node Float) (method : String) (g : Latest) :
    (n.attempt method params).run.Follows (Latest.discipline Reply.IsPlain fun _ => True)
      (RetryPolicy.Leaves (Failed method) (Concluded method)) g := by
  refine attempt_follows (fun _ => ⟨trivial, rfl⟩) (fun f hf => ?_) fun q r hq _ hr =>
    ⟨_, ⟨trivial, rfl⟩, ?_⟩
  · cases hc.symm.trans hf
  have hsee := Latest.see_self (g := g) (r := r) (δ := Float) hq
  have ha := Reply.result_amounts n.url hr
  cases hw : r.result n.url with
  | ok v => exact ⟨r, hsee, hw ▸ ha⟩
  | error e =>
    rw [hw] at ha
    by_cases hs : e.shouldResend
    · simp only [RetryPolicy.Leaves, hs, if_true]
      cases ha with
      | failure _ hn => exact ⟨r, hsee, hn⟩
      | fault _ => cases hs
    · simp only [RetryPolicy.Leaves, hs]
      exact ⟨r, hsee, ha⟩

/-- A loop that ends on its own is behind a failed attempt, and the pauses that it needs have a
length. -/
lemma call_concluded (h0 : 0 ≤ n.policy.maxRetries) (h1 : n.policy.maxRetries ≤ 1024)
    (method : String) (g : Latest) :
    (n.call method params).run.Follows (Latest.discipline Reply.IsPlain fun _ => True)
      (Concluded method) g := by
  have hattempts : n.policy.attempts = n.policy.maxRetries + 1 := rfl
  refine RetryPolicy.attemptsFrom_follows_within
    (D := Latest.discipline Reply.IsPlain fun _ => True) (I := fun _ => True) (J := Failed method)
    (b := n.policy.maxRetries.toNat) (fun _ _ => trivial)
    (fun _ g _ => attempt_concluded hc n method g) (fun _ _ _ => ⟨trivial, rfl⟩) ?_ _ _
    (by omega) _ trivial (by omega)
  rintro e g ⟨r, hg, hr⟩ (⟨latest, rfl⟩ | ⟨k, hk, hd⟩)
  · exact ⟨r, hg, .failure trivial hr⟩
  · obtain ⟨w, hw⟩ := n.policy.delay_ok (n := k) (by omega)
    cases hw.symm.trans hd

end Writable

/-- Parameters that cannot be written are found out at the first attempt. -/
lemma call_unwritten {params : Value} {f : Fault} (hc : Json.check params = .error (.host f))
    (h0 : 0 ≤ n.policy.maxRetries) {ms : List (Move Shared Float)} {w : Except Error Value}
    (hr : (n.call method params).run.Runs ms (.done w)) :
    (∃ s, ms = [.change (·.dial n.line n.timeout) s]) ∧ w = .error (.host f) := by
  have hattempts : n.policy.attempts.toNat = n.policy.maxRetries.toNat + 1 := by
    rw [RetryPolicy.attempts]
    omega
  rw [call, RetryPolicy.repeating, hattempts, RetryPolicy.attemptsFrom] at hr
  obtain ⟨r, ms₁, ms₂, rfl, hattempt, hrest⟩ := Act.runs_andThen_iff.1 hr
  rw [attempt_run, hc] at hattempt
  obtain ⟨s, ns, rfl, hlast⟩ := runs_step_iff.1 hattempt
  obtain ⟨rfl, rfl⟩ := runs_done_iff.1 hlast
  obtain ⟨rfl, rfl⟩ := runs_done_iff.1 hrest
  exact ⟨⟨s, rfl⟩, rfl⟩

/-- **The outcome of a call.** With up to 1024 retries and whatever answers and failures of the
transport, a call that has ended has got a reply, if its parameters can be written. It has come to
the result that its last reply carries, or to an error of the request; or that reply has tripped the
client, and only then it has come to anything else. Parameters that cannot be written end the call
with what keeps them from it, before anything is asked for. -/
theorem call_outcome (n : Node Float) (method : String) (params : Value)
    (h0 : 0 ≤ n.policy.maxRetries) (h1 : n.policy.maxRetries ≤ 1024)
    (ms : List (Move Shared Float)) (w : Except Error Value)
    (hr : (n.call method params).run.Runs ms (.done w))
    (hs : ∀ m ∈ ms, m.Meets Reply.IsPlain) :
    (Json.check params = .ok () → ∃ r, latest ms method = some r ∧ r.Amounts w) ∧
    ∀ f, Json.check params = .error (.host f) →
      (∃ s, ms = [.change (·.dial n.line n.timeout) s]) ∧ w = .error (.host f) := by
  refine ⟨fun hc => ?_, fun f hc => call_unwritten hc h0 hr⟩
  obtain ⟨g, hl, hg⟩ := (call_concluded hc h0 h1 method .empty).runs hr hs
  obtain ⟨-, rfl⟩ := Latest.leads hl
  exact hg

open Gifts in
/-- A call whose first request times out, and whose second one is answered. -/
theorem delayed_call_outcome : ∃ ms, 0 ≤ testNode.policy.maxRetries ∧
    testNode.policy.maxRetries ≤ 1024 ∧ Json.check (.list []) = .ok () ∧
    (testNode.call "status" (.list [])).run.Runs ms (.done (.ok (.object []))) ∧
    (∀ m ∈ ms, m.Meets Reply.IsPlain) ∧
    ∃ r, latest ms "status" = some r ∧ r.Amounts (.ok (.object [])) := by
  obtain ⟨ms, hrun, hs⟩ : ∃ ms,
      (testNode.call "status" (.list [])).run.Runs ms (.done (.ok (.object []))) ∧
      ∀ m ∈ ms, m.Meets Reply.IsPlain := by
    refine ⟨[.change (·.dial 0 .null) start, .exchange _ .timedOut, .pause _,
      .change (·.dial 0 .null) start, .exchange _ outcomeReply], .cons (.change ..)
      (.cons (.exchange ..) (.cons (.pause ..) (.cons (.change ..) (.cons (.exchange ..)
      (.nil _))))), ?_⟩
    simp [Move.Meets, Reply.IsPlain, outcomeReply]
  exact ⟨ms, by decide, by decide, rfl, hrun, hs,
    (call_outcome testNode "status" (.list []) (by decide) (by decide) ms _ hrun hs).1 rfl⟩

open Gifts in
/-- An error that is no object ends a call with a fault of the host. -/
theorem bare_call_fault : ∃ ms, 0 ≤ testNode.policy.maxRetries ∧
    testNode.policy.maxRetries ≤ 1024 ∧
    (testNode.call "status" (.list [])).run.Runs ms (.done (.error (.host .noMember))) ∧
    (∀ m ∈ ms, m.Meets Reply.IsPlain) ∧ ¬ Error.OfRequest (.host .noMember) := by
  refine ⟨[.change (·.dial 0 .null) start,
    .exchange _ (.answer 200 "\x7b\"error\":\"oops\"\x7d")], by decide, by decide,
    .cons (.change ..) (.cons (.exchange ..) (.nil _)), ?_, id⟩
  simp [Move.Meets, Reply.IsPlain]

end Node

end LedgerClient
