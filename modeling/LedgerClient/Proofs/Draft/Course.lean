import LedgerClient.Proofs.Draft.Budget
import LedgerClient.Proofs.Draft.Carried
import LedgerClient.Proofs.Json.Progress

/-!
The course of a send: what it asks of the node in turn, the results that it gets, and what it
comes to by them. An attempt looks a nonce up if none is at hand, asks for a block, signs and
submits. Only the rejection of a nonce leads to another attempt, and the third one ends the send. A
rejection that names a nonce of too many digits ends it as well, when the next one is put on record.
-/

namespace LedgerClient

open Dialogue

variable {δ : Type}

/-! ### Rejections and failures -/

/-- The error says that the nonce of a transaction was not above the ledger's, which is this. -/
def Error.Rejects (e : Error) (ledgers : Value) : Prop :=
  ∃ nonce code data cause, e = .rpc (.invalidNonce nonce ledgers) code data cause

lemma Error.rejection?_eq_some {e : Error} {v : Value} :
    e.rejection? = some v ↔ e.Rejects v := by
  constructor
  · intro h
    unfold rejection? at h
    split at h
    · obtain rfl := Option.some.inj h
      exact ⟨_, _, _, _, rfl⟩
    · cases h
  · rintro ⟨nonce, code, data, cause, rfl⟩
    rfl

lemma Error.rejection?_eq_none {e : Error} : e.rejection? = none ↔ ∀ v, ¬ e.Rejects v := by
  simp only [Option.eq_none_iff_forall_ne_some, ne_eq, rejection?_eq_some]

/-- The end state is an object with this member `Failure`. -/
def View.Outcome.Fails (o : View.Outcome) (v : Value) : Prop :=
  ∃ ms, o.status = some (.particulars ms) ∧ ms.lookup "Failure" = some v

lemma View.Outcome.endMember?_failure {o : View.Outcome} {v : Value} :
    o.endMember? "Failure" = some v ↔ o.Fails v := by
  rw [endMember?]
  constructor
  · intro h
    split at h
    · rename_i ms hms
      exact ⟨ms, hms, h⟩
    · cases h
  · rintro ⟨ms, hms, h⟩
    rw [hms]
    exact h

lemma View.Outcome.isFailure_iff {o : View.Outcome} : o.isFailure = true ↔ ∃ v, o.Fails v := by
  simp only [isFailure, Option.isSome_iff_exists, endMember?_failure]

/-- The rejection of a nonce names the ledger's as a whole number, or leaves it out. -/
def Error.NamesOrOmits (e : Error) : Prop := ∀ v, e.Rejects v → v.isNull ∨ v.whole?.isSome

/-- Of an error that comes up as it is, what it says of nonces is of the right kind. -/
def Reply.NamesOrOmits (r : Reply) : Prop := ∀ e, r = .raised e → e.NamesOrOmits

lemma Reply.NamesLedger.namesOrOmits {r : Reply} (h : r.NamesLedger) : r.NamesOrOmits := by
  rintro e rfl v hv
  exact .inr (h "" e v rfl (Error.rejection?_eq_some.2 hv))

/-- The node's own rejections name the ledger's nonce. -/
lemma Reply.NamesOrOmits.result {r : Reply} {url : String} {e : Error} (h : r.NamesOrOmits)
    (he : r.result url = .error e) : e.NamesOrOmits := by
  cases r with
  | raised e' =>
    obtain rfl := Except.error.inj he
    exact h _ rfl
  | _ =>
    intro v hv
    exact .inr (Reply.namesLedger (fun _ hr => by cases hr) url e v he
      (Error.rejection?_eq_some.2 hv))

lemma Error.namesOrOmits_of_none {e : Error} (h : e.rejection? = none) : e.NamesOrOmits :=
  fun v hv => absurd hv (rejection?_eq_none.1 h v)

/-- Changes nothing but the nonces. -/
def Move.OnNonces : Move Shared δ → Prop
  | .change f _ => ∀ s, ∃ c, f s = { s with nonces := c }
  | _ => False

namespace Draft

/-! ### Operations -/

/-- What a send asks of the node, with the result that it gets. -/
inductive Operation where
  | nonce (r : Except Error View.AccessKey)
  | block (r : Except Error View.Block)
  | submission (t : SignedTransaction) (r : Except Error View.Outcome)

/-- The result of a submission. -/
def Operation.outcome? : Operation → Option (Except Error View.Outcome)
  | submission _ r => some r
  | _ => none

/-- The results of the submissions, in order. -/
def outcomes (ops : List Operation) : List (Except Error View.Outcome) :=
  ops.filterMap Operation.outcome?

section Performs

variable [Span δ] (d : Draft) (n : Node δ) (h : Holder) (k : KeyPair)

/-- The moves are a whole run of the operation, and lead to its result. -/
def Operation.IsRun (ms : List (Move Shared δ)) : Operation → Prop
  | nonce r => (n.viewAccessKey h.signer.account k.publicKey.text (.finality .optimistic)).run.Runs
    ms (.done r)
  | block r => (n.block (.finality .final)).run.Runs ms (.done r)
  | submission t r => (n.submit t d.level).run.Runs ms (.done r)

/-- The moves are those of the operations in turn, and besides them only the nonces change. -/
inductive Performs : List (Move Shared δ) → List Operation → Prop
  | nil : Performs [] []
  | change {m : Move Shared δ} {ms : List (Move Shared δ)} {ops : List Operation} : m.OnNonces →
    Performs ms ops → Performs (m :: ms) ops
  | operation {op : Operation} {ms ns : List (Move Shared δ)} {ops : List Operation} :
    op.IsRun d n h k ms → Performs ns ops → Performs (ms ++ ns) (op :: ops)

variable {d n h k} {ms ns : List (Move Shared δ)} {ops ops' : List Operation}

lemma Performs.append (hp : d.Performs n h k ms ops) (hp' : d.Performs n h k ns ops') :
    d.Performs n h k (ms ++ ns) (ops ++ ops') := by
  induction hp with
  | nil => exact hp'
  | change hm _ ih => exact .change hm ih
  | operation ho _ ih =>
    rw [List.append_assoc]
    exact .operation ho ih

lemma Operation.IsRun.performs {op : Operation} (ho : op.IsRun d n h k ms) :
    d.Performs n h k ms [op] := by
  have := Performs.operation ho .nil
  rwa [List.append_nil] at this

end Performs

/-! ### The course by the results -/

/-- How an attempt comes by its nonce: it is carried over, or it is claimed, for which it is looked
up where none is known. -/
inductive Supply : Option Int → List Operation → Except Error Int → Prop
  | carried (m : Int) : Supply (some m) [] (.ok m)
  | known (m : Int) : Supply none [] (.ok m)
  | found {v : View.AccessKey} {m : Int} : v.nonce < m → Supply none [.nonce (.ok v)] (.ok m)
  | failed (e : Error) : Supply none [.nonce (.error e)] (.error e)

/-- The draft, signed for a nonce and a block as the node describes it. -/
def signedOn (d : Draft) (h : Holder) (k : KeyPair) (m : Int) (b : View.Block) :
    Except Error SignedTransaction := b.header.digest.bind (d.signed h k m)

lemma signFor_eq [Span δ] (d : Draft) (n : Node δ) (h : Holder) (k : KeyPair) (m : Int) :
    d.signFor n h k m =
      (do Act.ofExcept (d.signedOn h k m (← n.block (.finality .final)))) := by
  rw [signFor]
  exact congrArg (n.block (.finality .final) >>= ·)
    (funext fun b => Act.ofExcept_bind b.header.digest (d.signed h k m))

lemma signedOn_ok {d : Draft} {h : Holder} {k : KeyPair} {m : Int} {b : View.Block}
    {t : SignedTransaction} (hs : d.signedOn h k m b = .ok t) : ∃ text, t.toBase64 = .ok text := by
  unfold signedOn at hs
  cases hd : b.header.digest with
  | error e =>
    rw [hd] at hs
    cases hs
  | ok hash =>
    simp only [hd, Except.bind, signed] at hs
    exact (Transaction.sign_ok hs).2

/-- What an attempt goes on with when its nonce was rejected: one above the ledger's, or none where
that was left out. -/
inductive Renewal (v : Value) : Option Int → Prop
  | above {a m : Int} : v.whole? = some a → a < m → Renewal v (some m)
  | afresh : v.isNull → Renewal v none

/-- The ledger's nonce has no successor that can be put on record. -/
def Unrenewable (v : Value) : Prop := ∃ a, v.whole? = some a ∧ Text.isOverlong (a + 1) = true

/-- What is said of a transaction that failed like this. -/
def failing (v : Value) : String :=
  ((Json.print? Json.spacedSorted v).filter (· ≠ "")).getD "unknown failure"

section Course

variable (d : Draft) (h : Holder) (k : KeyPair)

/-- An attempt from its nonce on: the error that it ends with before the submission, or else the
result of that. -/
inductive Posting (m : Int) :
    List Operation → Except Error (Except Error View.Outcome) → Prop
  | undated (e : Error) : Posting m [.block (.error e)] (.error e)
  | unsigned {b : View.Block} {e : Error} : d.signedOn h k m b = .error e →
    Posting m [.block (.ok b)] (.error e)
  | submitted {b : View.Block} {t : SignedTransaction} (r : Except Error View.Outcome) :
    d.signedOn h k m b = .ok t → Posting m [.block (.ok b), .submission t r] (.ok r)

/-- A whole attempt, with a nonce at hand or without one. -/
inductive Attempt (p : Option Int) :
    List Operation → Except Error (Except Error View.Outcome) → Prop
  | unsupplied {ops : List Operation} {e : Error} : Supply p ops (.error e) →
    Attempt p ops (.error e)
  | supplied {ops ops' : List Operation} {m : Int}
    {x : Except Error (Except Error View.Outcome)} : Supply p ops (.ok m) →
    d.Posting h k m ops' x → Attempt p (ops ++ ops') x

/-- The operations of a send with so many spare attempts, and what it comes to. -/
inductive Course : ℕ → Option Int → List Operation → Except Error View.Outcome → Prop
  | stopped {spare : ℕ} {p : Option Int} {ops : List Operation} {e : Error} :
    d.Attempt h k p ops (.error e) → Course spare p ops (.error e)
  | returned {spare : ℕ} {p : Option Int} {ops : List Operation} {o : View.Outcome} :
    d.Attempt h k p ops (.ok (.ok o)) → (∀ v, ¬ o.Fails v) → Course spare p ops (.ok o)
  | failed {spare : ℕ} {p : Option Int} {ops : List Operation} {o : View.Outcome} {v : Value} :
    d.Attempt h k p ops (.ok (.ok o)) → o.Fails v →
    Course spare p ops (.error (.failed (failing v) (some o)))
  | refused {spare : ℕ} {p : Option Int} {ops : List Operation} {e : Error} :
    d.Attempt h k p ops (.ok (.error e)) → (∀ v, ¬ e.Rejects v) → Course spare p ops (.error e)
  | exhausted {p : Option Int} {ops : List Operation} {e : Error} {v : Value} :
    d.Attempt h k p ops (.ok (.error e)) → e.Rejects v → Course 0 p ops (.error e)
  | rejected {spare : ℕ} {p p' : Option Int} {ops ops' : List Operation} {e : Error} {v : Value}
    {w : Except Error View.Outcome} : d.Attempt h k p ops (.ok (.error e)) →
    e.Rejects v → Renewal v p' → Course spare p' ops' w → Course (spare + 1) p (ops ++ ops') w
  | stumbled {spare : ℕ} {p : Option Int} {ops : List Operation} {e : Error} {v : Value} :
    d.Attempt h k p ops (.ok (.error e)) → e.Rejects v → Unrenewable v →
    Course (spare + 1) p ops (.error .unwritten)

/-- The submission ended with the rejection of the nonce. -/
def IsRejection (r : Except Error View.Outcome) : Prop := ∃ e v, r = .error e ∧ e.Rejects v

variable {d h k} {p : Option Int} {ops : List Operation} {w : Except Error View.Outcome} {spare : ℕ}

@[simp] lemma outcomes_append (ops ops' : List Operation) :
    outcomes (ops ++ ops') = outcomes ops ++ outcomes ops' := List.filterMap_append

lemma Supply.outcomes_eq {r : Except Error Int} (hs : Supply p ops r) : outcomes ops = [] := by
  cases hs <;> rfl

lemma Attempt.outcomes_eq {x : Except Error (Except Error View.Outcome)}
    (ha : d.Attempt h k p ops x) : outcomes ops = x.toOption.toList := by
  cases ha with
  | unsupplied hs => exact hs.outcomes_eq
  | supplied hs hp =>
    rw [outcomes_append, hs.outcomes_eq]
    cases hp <;> rfl

/-- Each attempt submits once or ends the send, and only the last submission of a send may end
otherwise than with the rejection of its nonce. -/
lemma Course.outcomes_spec (hc : d.Course h k spare p ops w) :
    (outcomes ops).length ≤ spare + 1 ∧ ∀ r ∈ (outcomes ops).dropLast, IsRejection r := by
  induction hc with
  | stopped ha | returned ha _ | failed ha _ | refused ha _ | exhausted ha _ | stumbled ha _ _ =>
    rw [ha.outcomes_eq]
    simp [Except.toOption]
  | @rejected _ _ _ ops ops' e v _ ha hv _ _ ih =>
    obtain ⟨hlen, hinit⟩ := ih
    have hsub : outcomes (ops ++ ops') = .error e :: outcomes ops' := by
      rw [outcomes_append, ha.outcomes_eq]
      rfl
    rw [hsub]
    refine ⟨Nat.succ_le_succ hlen, fun r hr => ?_⟩
    cases hs : outcomes ops' with
    | nil => simp [hs] at hr
    | cons r' rs =>
      rw [hs, List.dropLast_cons_cons] at hr
      rcases List.mem_cons.1 hr with rfl | hr
      · exact ⟨e, v, rfl, hv⟩
      · exact hinit r (hs ▸ hr)

end Course

/-! ### From the runs to the course -/

section Runs

-- nothing is gained here from looking into what is signed
attribute [local irreducible] SignedTransaction.toBase64 signed

variable {n : Node Float} {d : Draft} {h : Holder} {k : KeyPair} {ms : List (Move Shared Float)}
  {ops : List Operation} {e : Error} {m : Int} {w : Except Error View.Outcome}
  {otherwise : Error → Act Shared Float View.Outcome}

lemma onNonces_perform (op : NonceCache.Step) (s : Shared) :
    (.change (Shared.perform op) s : Move Shared δ).OnNonces := fun _ => ⟨_, rfl⟩

lemma ledgerNonce_runs {r : Except Error Int} (hr : (ledgerNonce n h k).run.Runs ms (.done r)) :
    ∃ v, (Operation.nonce v).IsRun d n h k ms ∧ r = v.map (·.nonce) := by
  rcases Act.runs_bind_iff.1 hr with ⟨e, hv, rfl⟩ | ⟨v, ms₁, ms₂, rfl, hv, hn⟩
  · exact ⟨.error e, hv, rfl⟩
  · obtain ⟨rfl, rfl⟩ := runs_done_iff.1 hn
    exact ⟨.ok v, by rwa [List.append_nil], rfl⟩

/-- A nonce is claimed with one lookup at most. -/
lemma claim_supply {r : Except Error Int}
    (hr : (NonceCache.claim (h.line k) (ledgerNonce n h k)).run.Runs ms (.done r)) :
    ∃ ops, d.Performs n h k ms ops ∧ Supply none ops r := by
  rw [NonceCache.claim_run] at hr
  obtain ⟨s, ns, rfl, hrest⟩ := runs_step_iff.1 hr
  have htake := onNonces_perform (δ := Float) (.take (h.line k)) s
  split at hrest
  · obtain ⟨rfl, rfl⟩ := runs_done_iff.1 hrest
    exact ⟨[], .change htake .nil, .known _⟩
  · rcases Act.runs_bind_iff.1 hrest with ⟨e, hf, rfl⟩ | ⟨a, ms₁, ms₂, rfl, hf, hsettle⟩
    · obtain ⟨v | v, hv, he⟩ := ledgerNonce_runs (d := d) hf
      · obtain rfl := Except.error.inj he
        exact ⟨_, .change htake hv.performs, .failed e⟩
      · cases he
    · obtain ⟨v | v, hv, he⟩ := ledgerNonce_runs (d := d) hf
      · cases he
      · obtain rfl := Except.ok.inj he
        obtain ⟨s', ns', rfl, hlast⟩ := runs_step_iff.1 hsettle
        obtain ⟨rfl, rfl⟩ := runs_done_iff.1 hlast
        refine ⟨_, .change htake (hv.performs.append (.change (fun _ => ⟨_, rfl⟩) .nil)),
          .found ?_⟩
        rcases NonceCache.run_spec (.settle (h.line k) v.nonce) rfl s'.nonces with
          ⟨_, hr⟩ | ⟨m, hr, _, ha⟩
        · cases hr
        · obtain rfl := Option.some.inj (congrArg Prod.fst hr)
          exact ha _ rfl

lemma signFor_runs {r : Except Error SignedTransaction}
    (hr : (d.signFor n h k m).run.Runs ms (.done r)) :
    (∃ e, (Operation.block (.error e)).IsRun d n h k ms ∧ r = .error e) ∨
    ∃ b, (Operation.block (.ok b)).IsRun d n h k ms ∧ r = d.signedOn h k m b := by
  rw [signFor_eq] at hr
  rcases Act.runs_bind_iff.1 hr with ⟨e, hb, rfl⟩ | ⟨b, ms₁, ms₂, rfl, hb, hsign⟩
  · exact .inl ⟨e, hb, rfl⟩
  · obtain ⟨rfl, rfl⟩ := runs_done_iff.1 hsign
    exact .inr ⟨b, by rwa [List.append_nil], rfl⟩

/-- What follows an attempt. -/
def closing (otherwise : Error → Act Shared δ View.Outcome) :
    Except Error (Except Error View.Outcome) → Act Shared δ View.Outcome
  | .error e => throw e
  | .ok (.ok o) => Act.ofExcept (conclude o)
  | .ok (.error e) => otherwise e

lemma post_runs (hr : (d.post n h k m otherwise).run.Runs ms (.done w)) :
    ∃ x ops ms₁ ms₂, ms = ms₁ ++ ms₂ ∧ d.Performs n h k ms₁ ops ∧ d.Posting h k m ops x ∧
      (closing otherwise x).run.Runs ms₂ (.done w) := by
  rcases Act.runs_bind_iff.1 hr with ⟨e, hsign, rfl⟩ | ⟨t, ms₁, ms₂, rfl, hsign, hsubmit⟩
  · rcases signFor_runs hsign with ⟨e, hb, he⟩ | ⟨b, hb, he⟩
    · obtain rfl := Except.error.inj he
      exact ⟨_, _, ms, [], by simp, hb.performs, .undated e, .nil _⟩
    · exact ⟨_, _, ms, [], by simp, hb.performs, .unsigned he.symm, .nil _⟩
  · rcases signFor_runs hsign with ⟨e, hb, ht⟩ | ⟨b, hb, ht⟩
    · cases ht
    · obtain ⟨r, ms₃, ms₄, rfl, hr, hclosing⟩ := Act.runs_andThen_iff.1 hsubmit
      refine ⟨.ok r, _, ms₁ ++ ms₃, ms₄, by simp, hb.performs.append ?_, .submitted r ht.symm, ?_⟩
      · exact (show Operation.IsRun d n h k ms₃ (.submission t r) from hr).performs
      · cases r <;> exact hclosing

lemma attempt_runs {p : Option Int} (hr : (d.attempt n h k p otherwise).run.Runs ms (.done w)) :
    ∃ x ops ms₁ ms₂, ms = ms₁ ++ ms₂ ∧ d.Performs n h k ms₁ ops ∧ d.Attempt h k p ops x ∧
      (closing otherwise x).run.Runs ms₂ (.done w) := by
  cases p with
  | some m =>
    obtain ⟨x, ops, ms₁, ms₂, rfl, hp, hx, hclosing⟩ := post_runs hr
    exact ⟨x, ops, ms₁, ms₂, rfl, hp, .supplied (.carried m) hx, hclosing⟩
  | none =>
    rcases Act.runs_bind_iff.1 hr with ⟨e, hclaim, rfl⟩ | ⟨m, ms₁, ms₂, rfl, hclaim, hpost⟩
    · obtain ⟨ops, hp, hs⟩ := claim_supply (d := d) hclaim
      exact ⟨.error e, ops, ms, [], by simp, hp, .unsupplied hs, .nil _⟩
    · obtain ⟨ops, hp, hs⟩ := claim_supply (d := d) hclaim
      obtain ⟨x, ops', ms₃, ms₄, rfl, hp', hx, hclosing⟩ := post_runs hpost
      exact ⟨x, ops ++ ops', ms₁ ++ ms₃, ms₄, by simp, hp.append hp', .supplied hs hx, hclosing⟩

/-! ### Rejections -/

/-- A call rejects a nonce only in the words of a reply. -/
lemma call_names {method : String} {params : Value}
    (hr : (n.call method params).run.Runs ms (.done (.error e)))
    (hs : ∀ m ∈ ms, m.Meets Reply.NamesOrOmits) : e.NamesOrOmits := by
  let D : Discipline Shared Float Unit := ⟨Reply.NamesOrOmits, fun _ _ _ => True⟩
  have hcall : (n.call method params).run.Follows D
      (fun _ r => ∀ e, r = .error e → e.NamesOrOmits) () := by
    refine RetryPolicy.attemptsFrom_follows (I := fun _ => True) (fun _ _ _ => ?_)
      (fun _ _ _ => trivial) ?_ _ _ _ trivial
    · refine Node.attempt_follows (fun _ => trivial) (fun f _ => ?_)
        fun q r _ _ hr => ⟨(), trivial, ?_⟩
      · rintro _ ⟨⟩
        exact Error.namesOrOmits_of_none rfl
      · cases hres : r.result n.url with
        | ok v => exact fun e he => by cases he
        | error e =>
          rw [RetryPolicy.Leaves]
          split
          · trivial
          · rintro _ ⟨⟩
            exact hr.result hres
    · rintro e _ _ he _ ⟨⟩
      exact Error.namesOrOmits_of_none (RetryPolicy.throws_rejection he)
  obtain ⟨_, -, h⟩ := hcall.runs hr hs
  exact h e rfl

lemma submit_names {t : SignedTransaction} {text : String} {level : WaitLevel}
    (ht : t.toBase64 = .ok text) (hr : (n.submit t level).run.Runs ms (.done (.error e)))
    (hs : ∀ m ∈ ms, m.Meets Reply.NamesOrOmits) : e.NamesOrOmits := by
  rw [Node.submit, ht] at hr
  change (do Node.read View.Outcome.shape (← n.call "send_tx" (posting text level)) :
    Act Shared Float View.Outcome).run.Runs _ _ at hr
  rcases Act.runs_bind_iff.1 hr with ⟨e, hcall, he⟩ | ⟨v, ms₁, ms₂, rfl, -, hread⟩
  · obtain rfl := Except.error.inj he
    exact call_names hcall hs
  · obtain ⟨f, rfl⟩ := (View.Outcome.shape_plain v).toExcept (runs_done_iff.1 hread).2
    exact Error.namesOrOmits_of_none rfl

lemma Attempt.encodes {p : Option Int} {x : Except Error (Except Error View.Outcome)}
    {t : SignedTransaction} {r : Except Error View.Outcome} (ha : d.Attempt h k p ops x)
    (ht : .submission t r ∈ ops) : ∃ text, t.toBase64 = .ok text := by
  cases ha with
  | unsupplied hs => cases hs with
    | failed e => simp at ht
  | supplied hs hp =>
    rcases List.mem_append.1 ht with ht | ht
    · cases hs <;> simp at ht
    · cases hp with
      | undated e | unsigned hb => simp at ht
      | submitted r hb =>
        obtain ⟨rfl, -⟩ : t = _ ∧ _ := by simpa using ht
        exact signedOn_ok hb

lemma Performs.names (hp : d.Performs n h k ms ops) (hs : ∀ m ∈ ms, m.Meets Reply.NamesOrOmits)
    (ht : ∀ t r, .submission t r ∈ ops → ∃ text, t.toBase64 = .ok text)
    (he : .error e ∈ outcomes ops) : e.NamesOrOmits := by
  induction hp with
  | nil => cases he
  | change _ _ ih => exact ih (List.forall_mem_cons.1 hs).2 ht he
  | @operation op ms ns ops ho _ ih =>
    obtain ⟨hms, hns⟩ := List.forall_mem_append.1 hs
    have ih := ih hns fun t r hm => ht t r (List.mem_cons_of_mem _ hm)
    cases op with
    | nonce r | block r => exact ih he
    | submission t r =>
      rcases List.mem_cons.1 he with rfl | he
      · obtain ⟨text, ht⟩ := ht t _ List.mem_cons_self
        exact submit_names ht ho hms
      · exact ih he

/-- Behind a rejection of the right kind the nonces change once at most, and the send goes on or
stumbles. -/
lemma afterRejection_runs {v : Value} {r : Except Error (Option Int)} {l : String}
    (hv : v.isNull ∨ v.whole?.isSome) (hr : (afterRejection l v).run.Runs ms (.done r)) :
    ∃ m, ms = [m] ∧ m.OnNonces ∧
      ((∃ p, r = .ok p ∧ Renewal v p) ∨ r = .error .unwritten ∧ Unrenewable v) := by
  by_cases hnull : v.isNull
  · rw [afterRejection, if_pos hnull] at hr
    obtain ⟨s, ns, rfl, hlast⟩ := runs_step_iff.1 hr
    obtain ⟨rfl, rfl⟩ := runs_done_iff.1 hlast
    exact ⟨_, rfl, fun s => ⟨_, rfl⟩, .inl ⟨none, rfl, .afresh hnull⟩⟩
  · obtain ⟨a, ha⟩ := Option.isSome_iff_exists.1 (hv.resolve_left hnull)
    rw [afterRejection_run ha] at hr
    obtain ⟨s, ns, rfl, hlast⟩ := runs_step_iff.1 hr
    obtain ⟨rfl, rfl⟩ := runs_done_iff.1 hlast
    refine ⟨_, rfl, onNonces_perform _ s, ?_⟩
    rw [NonceCache.Step.renewal]
    rcases NonceCache.run_spec (.reconcile l a) rfl s.nonces with ⟨hlong, hr⟩ | ⟨m, hr, _, hm⟩
    · rw [hr]
      exact .inr ⟨rfl, a, ha, hlong⟩
    · rw [hr]
      exact .inl ⟨some m, rfl, .above ha (hm a rfl)⟩

/-- What comes behind a rejection: the nonces change once, and the rest of the send follows if it
has not stumbled. -/
lemma renewal_runs {v : Value} {l : String} {f : Option Int → Act Shared Float View.Outcome}
    (hv : v.isNull ∨ v.whole?.isSome)
    (hr : (do f (← afterRejection l v)).run.Runs ms (.done w)) :
    ∃ m ns, ms = m :: ns ∧ m.OnNonces ∧
      ((∃ p, Renewal v p ∧ (f p).run.Runs ns (.done w)) ∨
        ns = [] ∧ w = .error .unwritten ∧ Unrenewable v) := by
  rcases Act.runs_bind_iff.1 hr with ⟨e, hafter, rfl⟩ | ⟨p, ms₁, ns, rfl, hafter, hrest⟩
  · obtain ⟨m, rfl, hm, ⟨_, he, -⟩ | ⟨he, hlong⟩⟩ := afterRejection_runs hv hafter
    · cases he
    · obtain rfl := Except.error.inj he
      exact ⟨m, [], rfl, hm, .inr ⟨rfl, rfl, hlong⟩⟩
  · obtain ⟨m, rfl, hm, ⟨_, hp, hrenewal⟩ | ⟨hp, -⟩⟩ := afterRejection_runs hv hafter
    · obtain rfl := Except.ok.inj hp
      exact ⟨m, ns, rfl, hm, .inl ⟨p, hrenewal, hrest⟩⟩
    · cases hp

/-! ### Attempts in turn -/

/-- A transaction that failed is reported with the text of its failure. -/
lemma conclude_of_fails {o : View.Outcome} {v : Value} (ho : o.Fails v) :
    conclude o = .error (.failed (failing v) (some o)) := by
  have hfailing : failing v = if (o.failureText?.getD "") == "" then "unknown failure"
      else o.failureText?.getD "" := by
    rw [failing, View.Outcome.failureText?, View.Outcome.endMember?_failure.2 ho, Option.bind_some]
    cases Json.print? Json.spacedSorted v with
    | none => rfl
    | some text => by_cases h : text = "" <;> simp [h, Option.filter]
  rw [conclude, if_pos (View.Outcome.isFailure_iff.2 ⟨v, ho⟩), hfailing]

lemma conclude_course {spare : ℕ} {p : Option Int} {o : View.Outcome}
    (ha : d.Attempt h k p ops (.ok (.ok o))) : d.Course h k spare p ops (conclude o) := by
  by_cases ho : ∃ v, o.Fails v
  · obtain ⟨v, ho⟩ := ho
    rw [conclude_of_fails ho]
    exact .failed ha ho
  · rw [conclude, if_neg (ho ∘ View.Outcome.isFailure_iff.1)]
    exact .returned ha (not_exists.1 ho)

/-- An attempt ends the send, or else its submission has failed. -/
lemma attempt_ends {p : Option Int} (hr : (d.attempt n h k p otherwise).run.Runs ms (.done w)) :
    (∃ ops, d.Performs n h k ms ops ∧ ∀ spare, d.Course h k spare p ops w) ∨
    ∃ e ops ms₁ ms₂, ms = ms₁ ++ ms₂ ∧ d.Performs n h k ms₁ ops ∧
      d.Attempt h k p ops (.ok (.error e)) ∧ (otherwise e).run.Runs ms₂ (.done w) := by
  obtain ⟨x, ops, ms₁, ms₂, rfl, hp, ha, hclosing⟩ := attempt_runs hr
  cases x with
  | error e =>
    obtain ⟨rfl, rfl⟩ := runs_done_iff.1 hclosing
    exact .inl ⟨ops, by rwa [List.append_nil], fun _ => .stopped ha⟩
  | ok r =>
    cases r with
    | ok o =>
      obtain ⟨rfl, rfl⟩ := runs_done_iff.1 hclosing
      exact .inl ⟨ops, by rwa [List.append_nil], fun _ => conclude_course ha⟩
    | error e => exact .inr ⟨e, ops, ms₁, ms₂, rfl, hp, ha, hclosing⟩

/-- By induction on the attempts that are left: each one ends the send, or has its nonce rejected
and leads to the next, unless the send stumbles over the ledger's nonce. -/
theorem attempts_course {spare : ℕ} {p : Option Int}
    (hr : (d.attempts n h k spare p).run.Runs ms (.done w))
    (hs : ∀ m ∈ ms, m.Meets Reply.NamesOrOmits) :
    ∃ ops, d.Performs n h k ms ops ∧ d.Course h k spare p ops w := by
  induction spare generalizing p ms with
  | zero =>
    rw [attempts] at hr
    rcases attempt_ends hr with ⟨ops, hp, hc⟩ | ⟨e, ops, ms₁, ms₂, rfl, hp, ha, hthrow⟩
    · exact ⟨ops, hp, hc 0⟩
    · obtain ⟨rfl, rfl⟩ := runs_done_iff.1 hthrow
      refine ⟨ops, by rwa [List.append_nil], ?_⟩
      cases hv : e.rejection? with
      | none => exact .refused ha (Error.rejection?_eq_none.1 hv)
      | some v => exact .exhausted ha (Error.rejection?_eq_some.1 hv)
  | succ left ih =>
    rw [attempts] at hr
    rcases attempt_ends hr with ⟨ops, hp, hc⟩ | ⟨e, ops, ms₁, ms₂, rfl, hp, ha, hnext⟩
    · exact ⟨ops, hp, hc _⟩
    · obtain ⟨hs₁, hs₂⟩ := List.forall_mem_append.1 hs
      cases hv : e.rejection? with
      | none =>
        rw [hv] at hnext
        obtain ⟨rfl, rfl⟩ := runs_done_iff.1 hnext
        exact ⟨ops, by rwa [List.append_nil], .refused ha (Error.rejection?_eq_none.1 hv)⟩
      | some v =>
        have hlast : .error e ∈ outcomes ops := by simp [ha.outcomes_eq, Except.toOption]
        have hnames : e.NamesOrOmits := hp.names hs₁ (fun _ _ => ha.encodes) hlast
        have hrejects : e.Rejects v := Error.rejection?_eq_some.1 hv
        rw [hv] at hnext
        obtain ⟨m, ns, rfl, hm, ⟨p', hrenewal, hrest⟩ | ⟨rfl, rfl, hlong⟩⟩ :=
          renewal_runs (hnames v hrejects) hnext
        · obtain ⟨ops', hp', hc⟩ := ih hrest (List.forall_mem_cons.1 hs₂).2
          exact ⟨ops ++ ops', hp.append (.change hm hp'), .rejected ha hrejects hrenewal hc⟩
        · have hp' := hp.append (.change hm .nil)
          rw [List.append_nil] at hp'
          exact ⟨ops, hp', .stumbled ha hrejects hlong⟩

end Runs

/-! ### Whole sends -/

lemma send_of_not_ready [Span δ] {d : Draft} {e : Error} (hr : d.ready = .error e) (n : Node δ) :
    (d.send n).run = .done (.error e) := by
  rw [send, hr]
  rfl

lemma ready_of_no_actions {d : Draft} (ha : d.actions = []) :
    d.ready = .error (.plain .build "Transaction must have at least one action") := by
  rw [ready, requireActions, ha]
  rfl

lemma ready_of_no_signer {d : Draft} (ha : d.actions ≠ []) (hs : d.signer? = none) :
    d.ready = .error .noSigner := by
  have hactions : d.requireActions = .ok () := by simp [requireActions, ha]
  rw [ready, hactions, requireSigner, hs]
  rfl

/-- **How a send ends.** A draft without actions or without a signer is refused before anything is
done. Every other send claims a key and performs three attempts at most, and what the node does with
each of them decides how the send goes on and what it comes to: behind the rejection of a nonce it
goes on, unless that is the third one or names a nonce that is too long to go beyond. In every run,
finished or not, transactions are posted no more than three times as often as a call is tried; and
whatever the replies, the send comes to an end. -/
theorem send_course (d : Draft) (n : Node Float) :
    (d.actions = [] → (d.send n).run =
      .done (.error (.plain .build "Transaction must have at least one action"))) ∧
    (d.actions ≠ [] → d.signer? = none → (d.send n).run = .done (.error .noSigner)) ∧
    (∀ h ms w, d.actions ≠ [] → d.signer? = some h → (d.send n).run.Runs ms (.done w) →
      (∀ m ∈ ms, m.Meets Reply.NamesOrOmits) →
      ∃ s rest k ops, ms = .change (·.nextTurn h.seat) s :: rest ∧
        k = h.signer.key (s.turn h.seat) ∧ d.Performs n h k rest ops ∧
        d.Course h k spareAttempts none ops w ∧ (outcomes ops).length ≤ 3 ∧
        ∀ r ∈ (outcomes ops).dropLast, IsRejection r) ∧
    (∀ ms y, (d.send n).run.Runs ms y →
      ms.countP Move.submits ≤ 3 * (n.policy.maxRetries + 1).toNat) ∧
    ∀ otherwise s rs, otherwise.NamesOrOmits → (∀ r ∈ rs, r.NamesOrOmits) →
      ∃ ms, (d.send n).run.Runs ms (.done ((d.send n).run.play otherwise s rs).result) ∧
        ∀ m ∈ ms, m.Meets Reply.NamesOrOmits := by
  refine ⟨fun ha => send_of_not_ready (ready_of_no_actions ha) n,
    fun ha hs => send_of_not_ready (ready_of_no_signer ha hs) n, ?_,
    fun ms y hr => (d.send_spends n).countP_le hr, fun otherwise s rs ho hrs => ?_⟩
  · intro h ms w ha hh hr hs
    rw [send_run (ready_of ha hh)] at hr
    obtain ⟨s, rest, rfl, hrest⟩ := runs_step_iff.1 hr
    obtain ⟨ops, hp, hc⟩ := attempts_course hrest (List.forall_mem_cons.1 hs).2
    exact ⟨s, rest, _, ops, rfl, rfl, hp, hc, hc.outcomes_spec⟩
  · obtain ⟨ms, h, hms⟩ := play_solo (d.send n).run s ho hrs
    exact ⟨ms, h.runs, hms⟩

end Draft

open Gifts in
/-- A send whose first nonce is rejected, and which then goes through. -/
theorem gift_course : ∃ ms o s rest ops, (gift.send testNode).run.Runs ms (.done (.ok o)) ∧
    gift.actions ≠ [] ∧ gift.signer? = some alice ∧ (∀ m ∈ ms, m.Meets Reply.NamesOrOmits) ∧
    ms = .change (·.nextTurn alice.seat) s :: rest ∧
    gift.Performs testNode alice (.ofSecret secret) rest ops ∧
    gift.Course alice (.ofSecret secret) Draft.spareAttempts none ops (.ok o) ∧
    (Draft.outcomes ops).length ≤ 3 ∧ ∀ r ∈ (Draft.outcomes ops).dropLast, Draft.IsRejection r := by
  have hactions : gift.actions ≠ [] := by decide
  obtain ⟨_, _, _, o, -, -, -, ms, hsolo, -, hnames⟩ := gift.send_renewed
    (giftAnswers [] (by simp)) start rfl (alice_key _) (by decide) (by simp [giftAnswers]) rfl
    (gift_signs (.inl rfl) _) (gift_signs (.inr (.inl rfl)) _)
  have hmeets (m : Move Shared Float) (hm : m ∈ ms) : m.Meets Reply.NamesOrOmits :=
    (hnames m hm).imp fun _ => Reply.NamesLedger.namesOrOmits
  obtain ⟨s, rest, k, ops, hms, rfl, hp, hc, hlen, hinit⟩ :=
    (gift.send_course testNode).2.2.1 alice ms _ hactions rfl hsolo.runs hmeets
  rw [alice_key] at hp hc
  exact ⟨ms, o, s, rest, ops, hsolo.runs, hactions, rfl, hmeets, hms, hp, hc, hlen, hinit⟩

/-! ### A rejection that a send stumbles over -/

namespace Gifts

open Json

/-- What is open in front of the ledger's nonce. -/
def rejectionFrames : List Frame :=
  [.object [("tx_nonce", .int 42)] "ak_nonce", .object [] "InvalidNonce",
    .object [] "InvalidTxError",
    .object [("cause", .object [("name", .text "INVALID_TRANSACTION")])] "data",
    .object [] "error"]

/-- The answer that names this number as the ledger's. -/
def rejectionValue (ledgers : Int) : Value :=
  .object [("error", .object [("cause", .object [("name", .text "INVALID_TRANSACTION")]),
    ("data", .object [("InvalidTxError", .object [("InvalidNonce",
      .object [("tx_nonce", .int 42), ("ak_nonce", .int ledgers)])])])])]

set_option maxRecDepth 8000 in
lemma advance_rejectionFront : advance Tolerance.wide.half depthLimit .between (.wantValue [])
    rejectionFront.toList = some (.between, .wantValue rejectionFrames) := rfl

/-- Digits that are read are the ledger's nonce. -/
lemma rejection_ledgers_of_digits {c : Char} {cs : List Char} (hc : c.isDigit = true)
    (h0 : c ≠ '0') (hcs : ∀ d ∈ cs, d.isDigit = true) (hlen : (c :: cs).length ≤ Text.digitLimit)
    (url : String) :
    (rejection (String.ofList (c :: cs))).ledgers? url =
      some (Json.digitsValue (c :: cs) : ℤ) := by
  have hatom := atom?_of_digits hc h0 hcs
  have hshort := overlong?_of_digits hc h0 hcs hlen
  generalize (Json.digitsValue (c :: cs) : ℤ) = N at hatom ⊢
  have hparse : parse (rejectionFront ++ String.ofList (c :: cs) ++ "\x7d\x7d\x7d\x7d\x7d") =
      .ok (rejectionValue N) := by
    apply parse_of_advance
    rw [String.toList_append, String.toList_append, String.toList_ofList]
    refine advance_append (advance_append advance_rejectionFront
      (advance_digits hc hcs (by decide))) ?_
    exact advance_behindAtom (by rw [List.reverse_reverse]; exact hatom)
      (by rw [List.reverse_reverse]; exact hshort) rfl rfl rfl (Nat.le_of_ble_eq_true rfl) rfl
  rw [rejection, Reply.ledgers?, Reply.result, hparse]
  rfl

/-- The ledger's nonce has as many nines as are read. -/
def longRejection : Reply := rejection (String.ofList (List.replicate Text.digitLimit '9'))

lemma longRejection_ledgers (url : String) :
    ∃ a, longRejection.ledgers? url = some a ∧ a + 1 = 10 ^ Text.digitLimit := by
  have hreplicate : List.replicate Text.digitLimit '9' =
      '9' :: List.replicate (Text.digitLimit - 1) '9' := rfl
  have hnines : ∀ d ∈ List.replicate (Text.digitLimit - 1) '9', d.isDigit = true := by
    intro d hd
    rw [List.eq_of_mem_replicate hd]
    rfl
  refine ⟨_, rejection_ledgers_of_digits rfl (by decide) hnines ?_ url, ?_⟩
  · rw [← hreplicate, List.length_replicate]
  · rw [← hreplicate]
    exact_mod_cast digitsValue_nines Text.digitLimit

end Gifts

open Gifts in
/-- A send that ends behind a single rejection, and not with it. -/
theorem gift_stumbled : ∃ text ms, (gift.send testNode).run.Runs ms (.done (.error .unwritten)) ∧
    (∀ m ∈ ms, m.Meets Reply.NamesOrOmits) ∧ submissions ms = [(text, longRejection)] ∧
    (∃ e v, longRejection.result testNode.url = .error e ∧ e.Rejects v ∧ v.whole?.isSome) ∧
    ∀ v, ¬ Error.unwritten.Rejects v := by
  obtain ⟨a, ha, hpow⟩ := longRejection_ledgers testNode.url
  let A : Answers testNode.url :=
    { giftAnswers [] (by simp) with
      rejection := longRejection
      ledgers := a
      rejection_ledgers := ⟨names_answer _ _, ha⟩ }
  have hlong : Text.isOverlong (a + 1) = true := by
    rw [hpow]
    exact Text.isOverlong_pow le_rfl
  have hlt : (41 : Int) + 2 < a + 1 := by
    have hten : (10 : ℕ) ^ 2 ≤ 10 ^ Text.digitLimit := Nat.pow_le_pow_right (by decide) (by decide)
    calc (41 : Int) + 2 < 10 ^ 2 := by decide
      _ ≤ 10 ^ Text.digitLimit := by exact_mod_cast hten
      _ = a + 1 := hpow.symm
  obtain ⟨text, _, -, -, ms, hsolo, hsub, hnames⟩ := gift.send_stumbles A start rfl (alice_key _)
    (by decide : (0 : Int) < 4) (by simp [A, giftAnswers]) rfl (gift_signs (.inl rfl) _) hlt hlong
  obtain ⟨e, v, he, hv, ha⟩ := Reply.ledgers?_eq_some ha
  refine ⟨text, ms, hsolo.runs, fun m hm => ?_, hsub, ⟨e, v, he, Error.rejection?_eq_some.1 hv, ?_⟩,
    Error.rejection?_eq_none.1 rfl⟩
  · exact (hnames m hm).imp fun _ => Reply.NamesLedger.namesOrOmits
  · rw [ha]
    rfl

end LedgerClient
