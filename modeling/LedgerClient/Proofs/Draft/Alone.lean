import LedgerClient.Proofs.Dialogue.Company
import LedgerClient.Proofs.Draft.Stage

/-!
Acts of one party that has the state to itself, with the replies that it gets: what they come to and
what they submit on the way. A call comes to what its first reply settles, or is repeated.
-/

namespace LedgerClient

open Dialogue

variable {δ α β : Type} {s t u : Shared} {ps qs : List (String × Reply)}

/-! ### Acts of one party alone -/

namespace Act

/-- Alone from `s` on, the act can come to `r` and leave `t` behind, with these submissions; what is
rejected on the way names the ledger's nonce. -/
def Comes (x : Act Shared δ α) (s : Shared) (ps : List (String × Reply)) (t : Shared)
    (r : Except Error α) : Prop :=
  ∃ ms, Solo s x.run ms t (.done r) ∧ submissions ms = ps ∧ ∀ m ∈ ms, m.Meets Reply.NamesLedger

namespace Comes

variable {x : Act Shared δ α} {a : α} {r : Except Error α}

lemma ofExcept {w : Except Error α} (s : Shared) (h : w = r) :
    (Act.ofExcept w : Act Shared δ α).Comes s [] s r :=
  ⟨[], h ▸ .nil _ _, rfl, by simp⟩

lemma changeWith {f : Shared → α × Shared} (h : f s = (a, t)) :
    (Act.changeWith f : Act Shared δ α).Comes s [] t (.ok a) := by
  refine ⟨[.change (fun s => (f s).2) s], .change ?_, rfl, by simp [Move.Meets]⟩
  rw [h]
  exact .nil _ _

lemma andThen {f : Except Error α → Act Shared δ β} {w : Except Error β}
    (hx : x.Comes s ps t r) (hf : (f r).Comes t qs u w) :
    (x.andThen f).Comes s (ps ++ qs) u w := by
  obtain ⟨ms, h, rfl, hs⟩ := hx
  obtain ⟨ns, h', rfl, hs'⟩ := hf
  exact ⟨ms ++ ns, h.bind h', List.filterMap_append, List.forall_mem_append.2 ⟨hs, hs'⟩⟩

lemma bind {f : α → Act Shared δ β} {w : Except Error β} (hx : x.Comes s ps t (.ok a))
    (hf : (f a).Comes t qs u w) : (x >>= f).Comes s (ps ++ qs) u w := by
  obtain ⟨ms, h, rfl, hs⟩ := hx
  obtain ⟨ns, h', rfl, hs'⟩ := hf
  exact ⟨ms ++ ns, h.bind h', List.filterMap_append, List.forall_mem_append.2 ⟨hs, hs'⟩⟩

lemma bind_error {f : α → Act Shared δ β} {e : Error} (hx : x.Comes s ps t (.error e)) :
    (x >>= f).Comes s ps t (.error e) := by
  obtain ⟨ms, h, rfl, hs⟩ := hx
  refine ⟨ms ++ [], h.bind (.nil _ _), ?_, by simpa using hs⟩
  rw [List.append_nil]

/-- What a party does alone, in a company in which nobody else moves. -/
lemma run {ι : Type} [DecidableEq ι] {p : ι → Dialogue Shared δ (Except Error α)} {i : ι}
    (hx : x.Comes s ps t r) (hp : p i = x.run) :
    ∃ ms, Company.Run ⟨s, p⟩ ms ⟨t, Function.update p i (.done r)⟩ ∧
      submissions (own i ms) = ps ∧ (∀ j, j ≠ i → own j ms = []) ∧
      ∀ q ∈ ms, q.2.Meets Reply.NamesLedger := by
  obtain ⟨ms, h, rfl, hs⟩ := hx
  refine ⟨ms.map (i, ·), (hp ▸ h).run, by rw [own_map_self], fun j hj => ?_, ?_⟩
  · simp [own, Ne.symm hj]
  · simpa using hs

end Comes

end Act

/-! ### Calls -/

namespace RetryPolicy

variable [Span δ] {p : RetryPolicy δ} {f : Nat → Act Shared δ α} {k left : Nat}
  {latest : Option Error}

/-- An attempt that is the last one, since its outcome is settled. -/
lemma attemptsFrom_settled {r : Except Error α} (h : (f k).Comes s ps t r)
    (hr : ∀ e, r = .error e → e.shouldResend = false) :
    (p.attemptsFrom f (left + 1) k latest).Comes s ps t r := by
  rw [attemptsFrom, ← List.append_nil ps]
  refine h.andThen ?_
  cases r with
  | ok a => exact .ofExcept t rfl
  | error e =>
    simp only [hr e rfl, Bool.not_false, if_true]
    exact .ofExcept t rfl

/-- An attempt that is followed by another one. -/
lemma attemptsFrom_unsettled {e : Error} {d : δ} {r : Except Error α}
    (h : (f k).Comes s ps t (.error e)) (he : e.shouldResend) (hd : p.delay k = .ok d)
    (hn : (p.attemptsFrom f (left + 1) (k + 1) (some e)).Comes t qs u r) :
    (p.attemptsFrom f (left + 2) k latest).Comes s (ps ++ qs) u r := by
  rw [attemptsFrom]
  refine h.andThen ?_
  have hl : left + 1 ≠ 0 := Nat.succ_ne_zero left
  simp only [he, Bool.not_true, Bool.false_eq_true, if_false, hl, hd]
  obtain ⟨ms, h', hs, hm⟩ := hn
  exact ⟨.pause d :: ms, .pause h', hs, List.forall_mem_cons.2 ⟨trivial, hm⟩⟩

end RetryPolicy

/-- Requests with these particulars submit this text, or none. -/
def Submits (method : String) (params : Value) (text? : Option String) : Prop :=
  ∀ q : Request, q.method = method → q.params = params → q.posted? = text?

lemma submits_none {method : String} (h : method ≠ "send_tx") (params : Value) :
    Submits method params none := by
  intro q hq hp
  simp only [Request.posted?, hq]
  split
  · rw [if_neg h]
  · rfl

lemma submits_posting (text : String) (level : WaitLevel) :
    Submits "send_tx" (posting text level) (some text) := fun _ => posted?_posting

/-- What a call submits that gets these replies. -/
def answered (text? : Option String) (rs : List Reply) : List (String × Reply) :=
  text?.elim [] fun text => rs.map (text, ·)

lemma answered_cons (text? : Option String) (r : Reply) (rs : List Reply) :
    answered text? (r :: rs) = answered text? [r] ++ answered text? rs := by
  cases text? <;> rfl

lemma submissions_answered {m m' : Move Shared δ} {text? : Option String} {r : Reply}
    (h : m.submission? = none) (h' : m'.submission? = text?.map (·, r)) :
    submissions [m, m'] = answered text? [r] := by
  cases text? <;> simp [submissions, answered, h, h']

/-- The reply carries a value of this shape. -/
def Reply.Yields (url : String) (r : Reply) (sh : Shape α) (a : α) : Prop :=
  r.NamesLedger ∧ ∃ v, r.result url = .ok v ∧ (sh v).toExcept = .ok a

namespace Node

variable {n : Node δ} {method : String} {params : Value} {r : Reply} {text? : Option String}

lemma attempt_comes (n : Node δ) (s : Shared) (hc : Json.check params = .ok ())
    (hq : Submits method params text?) (hr : r.NamesLedger) :
    (n.attempt method params).Comes s (answered text? [r]) (s.dial n.line n.timeout)
      (r.result n.url) := by
  have hp := hq (n.request s method params) rfl rfl
  rw [Act.Comes, attempt_run, hc]
  refine ⟨_, .change (.exchange r (.nil _ _)), ?_, by simpa [Move.Meets] using hr⟩
  exact submissions_answered rfl (congrArg (Option.map (·, r)) hp)

variable [Span δ] {w : Except Error Value}

/-- By induction on the replies that leave it open whether the request arrived: each one is followed
by another attempt, until a reply settles the call. -/
lemma attemptsFrom_comes (hc : Json.check params = .ok ()) (hq : Submits method params text?)
    (hN : r.NamesLedger)
    (hr : r.result n.url = w) (hw : ∀ e, w = .error e → e.shouldResend = false) (left : Nat)
    {lost : List Reply} (hlost : ∀ x ∈ lost, x.NamesLedger ∧ x.Unsettled n.url) {k : Nat}
    (hd : ∀ j, k ≤ j → j < k + lost.length → ∃ d, n.policy.delay j = .ok d)
    (latest : Option Error) (s : Shared) :
    ∃ t, (n.policy.attemptsFrom (fun _ => n.attempt method params) (lost.length + (left + 1)) k
      latest).Comes s (answered text? (lost ++ [r])) t w ∧ t.nonces = s.nonces := by
  induction lost generalizing k latest s with
  | nil =>
    have h := n.attempt_comes s hc hq hN
    rw [hr] at h
    rw [List.length_nil, Nat.zero_add]
    exact ⟨_, RetryPolicy.attemptsFrom_settled h hw, s.dial_nonces _ _⟩
  | cons x lost ih =>
    obtain ⟨⟨hxN, e, he, hs⟩, hlost⟩ := List.forall_mem_cons.1 hlost
    have h := n.attempt_comes s hc hq hxN
    rw [he] at h
    obtain ⟨d, hdelay⟩ := hd k (Nat.le_refl k) (by simp)
    obtain ⟨t, ht, hnonces⟩ := ih hlost (k := k + 1)
      (fun j h₁ h₂ => hd j (by omega) (by simp only [List.length_cons]; omega)) (some e)
      (s.dial n.line n.timeout)
    have hleft : (x :: lost).length + (left + 1) = lost.length + left + 2 := by
      simp only [List.length_cons]
      omega
    rw [hleft, List.cons_append, answered_cons]
    refine ⟨t, RetryPolicy.attemptsFrom_unsettled h hs hdelay ht, ?_⟩
    rw [hnonces, Shared.dial_nonces]

/-- A call whose replies leave it open and then settle it, as long as it has the attempts. -/
lemma call_comes (hc : Json.check params = .ok ()) (hq : Submits method params text?)
    {lost : List Reply}
    (hlost : ∀ x ∈ lost, x.NamesLedger ∧ x.Unsettled n.url)
    (hn : lost.length < n.policy.attempts)
    (hd : ∀ j, j < lost.length → ∃ d, n.policy.delay j = .ok d) (hN : r.NamesLedger)
    (hr : r.result n.url = w) (hw : ∀ e, w = .error e → e.shouldResend = false) (s : Shared) :
    ∃ t, (n.call method params).Comes s (answered text? (lost ++ [r])) t w ∧
      t.nonces = s.nonces := by
  obtain ⟨left, hl⟩ : ∃ left, n.policy.attempts.toNat = lost.length + (left + 1) :=
    ⟨n.policy.attempts.toNat - lost.length - 1, by omega⟩
  rw [call, RetryPolicy.repeating, hl]
  exact attemptsFrom_comes hc hq hN hr hw left hlost (fun j _ h => hd j (by omega)) none s

/-- A call whose first reply yields what is asked for. -/
lemma read_call_comes {sh : Shape α} {a : α} (hc : Json.check params = .ok ())
    (hq : Submits method params text?) (hn : 0 < n.policy.attempts) (hr : r.Yields n.url sh a)
    (s : Shared) :
    ∃ t, (do Node.read sh (← n.call method params)).Comes s (answered text? [r]) t (.ok a) ∧
      t.nonces = s.nonces := by
  obtain ⟨hN, v, hv, ha⟩ := hr
  obtain ⟨t, hcall, ht⟩ := call_comes (n := n) hc hq (List.forall_mem_nil _) hn (by simp) hN hv
    (fun _ he => by cases he) s
  have hread : (Node.read sh v : Act Shared δ α).Comes t [] t (.ok a) := .ofExcept _ ha
  have := hcall.bind hread
  rw [List.append_nil] at this
  exact ⟨t, this, ht⟩

end Node

end LedgerClient
