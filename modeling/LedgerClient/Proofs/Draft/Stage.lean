import LedgerClient.Draft.Send
import LedgerClient.Proofs.Node.Moves
import LedgerClient.Proofs.Node.Rejection
import LedgerClient.Proofs.Transaction.RoundTrip
import LedgerClient.Proofs.View.Shape

/-!
The stages of a send. A nonce is handed out, a transaction is signed for it and posted, and posted
again as long as the answer allows that; only a rejection leads to another nonce. Every send goes
through these stages, whatever the replies and whatever others do to the nonces meanwhile.
-/

namespace LedgerClient

variable {δ α : Type}

/-! ### Posts -/

/-- The text of the signed transaction that a request posts. -/
def Request.posted? (q : Request) : Option String :=
  match q.params with
  | .object ms => if q.method = "send_tx" then (Members.get ms "signed_tx_base64").text? else none
  | _ => none

/-- The move posts the signed transaction and has this reply. -/
def Move.Posts (t : SignedTransaction) (r : Reply) (m : Move Shared δ) : Prop :=
  ∃ q text, m = .exchange q r ∧ q.posted? = some text ∧ t.toBase64 = .ok text

/-- The text that the move submits, and the reply. -/
def Move.submission? : Move Shared δ → Option (String × Reply)
  | exchange q r => q.posted?.map (·, r)
  | _ => none

/-- The texts that are submitted and their replies, in order. -/
def submissions (ms : List (Move Shared δ)) : List (String × Reply) :=
  ms.filterMap Move.submission?

lemma Move.submission?_eq_some {m : Move Shared δ} {t : SignedTransaction} {text : String}
    {r : Reply} (ht : t.toBase64 = .ok text) : m.submission? = some (text, r) ↔ m.Posts t r := by
  cases m with
  | change f s | pause d =>
    refine iff_of_false (fun h => by cases h) ?_
    rintro ⟨q, _, hm, -⟩
    cases hm
  | exchange q r' =>
    rw [submission?, Option.map_eq_some_iff]
    constructor
    · rintro ⟨_, hq, ⟨⟩⟩
      exact ⟨q, text, rfl, hq, ht⟩
    · rintro ⟨_, text', ⟨⟩, hq, ht'⟩
      obtain rfl := Except.ok.inj (ht.symm.trans ht')
      exact ⟨_, hq, rfl⟩

/-- Two of the submissions are posts, one behind the other. -/
lemma exists_posts {ms : List (Move Shared δ)} {t t' : SignedTransaction} {text text' : String}
    {r r' : Reply} {ps qs rs : List (String × Reply)} (ht : t.toBase64 = .ok text)
    (ht' : t'.toBase64 = .ok text')
    (h : submissions ms = ps ++ (text, r) :: (qs ++ (text', r') :: rs)) :
    ∃ ms₁ m ms₂ m' ms₃, ms = ms₁ ++ m :: (ms₂ ++ m' :: ms₃) ∧ m.Posts t r ∧ m'.Posts t' r' := by
  obtain ⟨l₁, l₂, rfl, -, h⟩ := List.filterMap_eq_append_iff.1 h
  obtain ⟨l₃, m, l₄, rfl, -, hm, h⟩ := List.filterMap_eq_cons_iff.1 h
  obtain ⟨l₅, l₆, rfl, -, h⟩ := List.filterMap_eq_append_iff.1 h
  obtain ⟨l₇, m', l₈, rfl, -, hm', -⟩ := List.filterMap_eq_cons_iff.1 h
  exact ⟨l₁ ++ l₃, m, l₅ ++ l₇, m', l₈, by simp, (Move.submission?_eq_some ht).1 hm,
    (Move.submission?_eq_some ht').1 hm'⟩

/-- The line of the nonce that the transaction takes. -/
def Transaction.line (t : Transaction) : String := NonceCache.line t.signer.text t.publicKey.text

/-- The transaction takes this nonce of this line. -/
def Transaction.Takes (t : Transaction) (l : String) (n : Int) : Prop :=
  t.line = l ∧ t.nonce = .whole n

/-- A transaction takes one nonce, of one line. -/
lemma Transaction.Takes.unique {t : Transaction} {l l' : String} {n n' : Int} (h : t.Takes l n)
    (h' : t.Takes l' n') : l = l' ∧ n = n' :=
  ⟨h.1.symm.trans h'.1, by simpa using h.2.symm.trans h'.2⟩

/-- The ledger's nonce, where a reply rejects one and names it. -/
def Reply.ledgers? (url : String) (r : Reply) : Option Int :=
  match r.result url with
  | .ok _ => none
  | .error e => e.rejection?.bind Value.whole?

lemma Reply.ledgers?_eq_some {url : String} {r : Reply} {a : Int} (h : r.ledgers? url = some a) :
    ∃ e v, r.result url = .error e ∧ e.rejection? = some v ∧ v.whole? = some a := by
  unfold ledgers? at h
  split at h
  · cases h
  · rename_i e he
    obtain ⟨v, hv, ha⟩ := Option.bind_eq_some_iff.1 h
    exact ⟨e, v, he, hv, ha⟩

/-- A failure behind which the same bytes are posted again. -/
def Reply.Unsettled (url : String) (r : Reply) : Prop :=
  ∃ e, r.result url = .error e ∧ e.shouldResend

/-! ### Stages -/

/-- What a send has in hand. -/
inductive Stage where
  | idle
  /-- A nonce that no transaction has been posted for. -/
  | fresh (n : Int)
  /-- A transaction that was posted without a settled answer. -/
  | posted (t : SignedTransaction)
  /-- Nothing but the ledger's nonce, behind a rejection. -/
  | rejected (ledgers : Int)
  | ended

/-- The stage behind a post, by what its reply amounts to. -/
def Stage.behind (t : SignedTransaction) : Except Error Value → Stage
  | .ok _ => ended
  | .error e =>
    if e.shouldResend then posted t
    else match e.rejection?.bind Value.whole? with
      | some a => rejected a
      | none => ended

/-- The moves of a send to a node with its nonces on one line. -/
inductive Stage.Rule (url l : String) : Stage → Move Shared δ → Stage → Prop
  | quiet {g : Stage} {m : Move Shared δ} : m.Quiet → Rule url l g m g
  | claim {m : Move Shared δ} {n : Int} : m.Issues l n → Rule url l idle m (fresh n)
  | reclaim {m : Move Shared δ} {a n : Int} : m.Issues l n → a < n →
    Rule url l (rejected a) m (fresh n)
  | post {m : Move Shared δ} {t : SignedTransaction} {r : Reply} {n : Int} :
    m.Posts t r → t.transaction.Takes l n → Rule url l (fresh n) m (behind t (r.result url))
  | repost {m : Move Shared δ} {t : SignedTransaction} {r : Reply} :
    m.Posts t r → Rule url l (posted t) m (behind t (r.result url))

open Dialogue

/-- The discipline of a send; a rejection is expected to name the ledger's nonce. -/
def Stage.discipline (url l : String) : Discipline Shared δ Stage :=
  ⟨Reply.NamesLedger, Stage.Rule url l⟩

variable {url l : String}

lemma Act.Quiet.staged {x : Act Shared δ α} {Q : Except Error α → Prop} (hx : x.Quiet Q)
    (g : Stage) :
    x.run.Follows (Stage.discipline url l) (fun g' r => g' = g ∧ Q r) g :=
  hx.follows fun _ h => .quiet h

/-! ### Nonces -/

/-- From idle a claim ends with a nonce of the line in hand, or else it fails. -/
lemma NonceCache.claim_staged {fetch : Act Shared δ Int} (hf : fetch.Quiet fun _ => True) :
    (NonceCache.claim l fetch).run.Follows (Stage.discipline url l)
      (fun g r => ∀ n, r = .ok n → g = .fresh n) .idle :=
  claim_follows (hf.staged .idle) (fun _ _ h => h.1) (fun _ _ h => .quiet h)
    fun _ _ hi => .claim hi

/-- Where a rejection names the ledger's nonce, a single step follows it. -/
lemma Draft.afterRejection_run {ledgers : Value} {a : Int} (h : ledgers.whole? = some a) :
    (Draft.afterRejection l ledgers : Act Shared δ (Option Int)).run =
      .step (Shared.perform (.reconcile l a)) fun s =>
        .done ((NonceCache.Step.reconcile l a).renewal s) := by
  have hn : ledgers.isNull = false := by
    cases ledgers with
    | null => cases h
    | _ => rfl
  rw [Draft.afterRejection, hn, h]
  exact NonceCache.renew_run l a

lemma afterRejection_staged {ledgers : Value} {a : Int} (h : ledgers.whole? = some a) :
    (Draft.afterRejection l ledgers).run.Follows (Stage.discipline (δ := δ) url l)
      (fun g r => ∀ m, r = .ok m → ∃ n, m = some n ∧ g = .fresh n) (.rejected a) := by
  rw [Draft.afterRejection_run h]
  intro s
  dsimp only
  rw [NonceCache.Step.renewal]
  rcases NonceCache.run_spec (.reconcile l a) rfl s.nonces with ⟨_, hr⟩ | ⟨n, hr, _, ha⟩
  · rw [hr]
    exact ⟨_, .quiet (congrArg Prod.snd hr), fun m hm => by cases hm⟩
  · rw [hr]
    refine ⟨.fresh n, .reclaim ⟨_, s, rfl, rfl, congrArg Prod.fst hr⟩ (ha a rfl), ?_⟩
    rintro _ ⟨⟩
    exact ⟨n, rfl, rfl⟩

/-! ### Signing and posting -/

/-- What is signed is the digest of the binary form. -/
lemma Transaction.sign_eq {t : Transaction} {k : SecretKey} {s : SignedTransaction}
    (h : t.sign k = .ok s) :
    ∃ bs, t.toBytes = .ok bs ∧ s = ⟨t, k.sign (Digest.of bs).bytes⟩ := by
  rw [sign, digest] at h
  cases hb : t.toBytes with
  | error e =>
    rw [hb] at h
    cases h
  | ok bs =>
    rw [hb] at h
    exact ⟨bs, rfl, (Except.ok.inj h).symm⟩

/-- What is signed has a binary form, since its digest is what the signature is for. -/
lemma Transaction.sign_ok {t : Transaction} {k : SecretKey} {s : SignedTransaction}
    (h : t.sign k = .ok s) : s.transaction = t ∧ ∃ text, s.toBase64 = .ok text := by
  obtain ⟨bs, hb, rfl⟩ := sign_eq h
  obtain ⟨x, hx⟩ := SignedTransaction.toBytes_ok hb (k.sign (Digest.of bs).bytes)
  exact ⟨rfl, _, SignedTransaction.toBase64_ok hx⟩

lemma Transaction.sign_of_toBytes {t : Transaction} {k : SecretKey} {bs : Bytes}
    (h : t.toBytes = .ok bs) : ∃ s, t.sign k = .ok s := by
  rw [sign, digest, h]
  exact ⟨_, rfl⟩

lemma Draft.signFor_quiet [Span δ] (d : Draft) (n : Node δ) (h : Holder) (k : KeyPair)
    (nonce : Int) :
    (d.signFor n h k nonce).Quiet fun r => ∀ s, r = .ok s →
      s.transaction.Takes (h.line k) nonce ∧ ∃ text, s.toBase64 = .ok text := by
  refine (n.block_quiet _).bind (fun b _ => ?_) fun e _ s hs => by cases hs
  refine Act.Quiet.bind (P := fun _ => True) trivial (fun hash _ => ?_) fun e _ s hs => by cases hs
  intro s hs
  obtain ⟨ht, htext⟩ := Transaction.sign_ok hs
  exact ⟨ht ▸ ⟨rfl, rfl⟩, htext⟩

/-- Behind a rejection the ledger's nonce is in hand. -/
def Stage.Answered (g : Stage) (r : Except Error α) : Prop :=
  ∀ e v, r = .error e → e.rejection? = some v → ∃ a, v.whole? = some a ∧ g = .rejected a

lemma Error.shouldResend_of_rejection {e : Error} {v : Value} (h : e.rejection? = some v) :
    e.shouldResend = false := by
  unfold rejection? at h
  split at h
  · rfl
  · cases h

/-- A reply leaves the transaction in hand where it is posted again, and else what it says. -/
lemma Stage.behind_leaves {t : SignedTransaction} {r : Reply} (hr : r.NamesLedger) {url : String}
    {I : Stage → Prop} (hp : I (.posted t)) :
    RetryPolicy.Leaves I Stage.Answered (.behind t (r.result url)) (r.result url) := by
  cases hres : r.result url with
  | ok v =>
    intro e v' he
    cases he
  | error e =>
    by_cases hs : e.shouldResend
    · simpa [RetryPolicy.Leaves, behind, hs] using hp
    · simp only [RetryPolicy.Leaves, behind, hs]
      rintro _ v ⟨⟩ hv
      obtain ⟨a, ha⟩ := Option.isSome_iff_exists.1 (hr url e v hres hv)
      refine ⟨a, ha, ?_⟩
      simp [hv, ha]

lemma RetryPolicy.throws_rejection {p : RetryPolicy Float} {e : Error} (h : p.Throws e) :
    e.rejection? = none := by
  rcases h with ⟨latest, rfl⟩ | ⟨n, hn⟩
  · rfl
  · rw [delay] at hn
    cases hs : Span.scale p.initialDelay (n : Int) with
    | ok d =>
      rw [hs] at hn
      cases hn
    | error e' =>
      rw [hs] at hn
      obtain rfl := Except.error.inj hn
      simp only [Span.scale] at hs
      split at hs <;> cases hs
      rfl

-- nothing is gained here from looking into the binary form of what is posted
attribute [local irreducible] SignedTransaction.toBase64

section Post

variable {n : Node Float} {t : SignedTransaction} {text : String} {m : Int}

/-- The particulars of a call that posts a signed transaction. -/
def posting (text : String) (level : WaitLevel) : Value :=
  .object [("signed_tx_base64", .text text), ("wait_until", .text level.text)]

lemma posted?_posting {q : Request} {level : WaitLevel} (hq : q.method = "send_tx")
    (hp : q.params = posting text level) : q.posted? = some text := by
  simp only [Request.posted?, hq, hp]
  rfl

lemma posts_of_posting {q : Request} {level : WaitLevel} (ht : t.toBase64 = .ok text)
    (hq : q.method = "send_tx") (hp : q.params = posting text level) (r : Reply) :
    (.exchange q r : Move Shared δ).Posts t r :=
  ⟨q, text, rfl, posted?_posting hq hp, ht⟩

/-- One post, of a transaction that is fresh or in hand. -/
lemma attempt_staged (ht : t.toBase64 = .ok text) (hm : t.transaction.Takes l m)
    (level : WaitLevel) {g : Stage} (hg : g = .fresh m ∨ g = .posted t) :
    (n.attempt "send_tx" (posting text level)).run.Follows (Stage.discipline n.url l)
      (RetryPolicy.Leaves (fun g => g = .fresh m ∨ g = .posted t) Stage.Answered) g := by
  refine Node.attempt_follows (fun s => Stage.Rule.quiet (s.dial_nonces _ _)) ?_ ?_
  · rintro f - e v ⟨⟩ hv
    cases hv
  intro q r hq hv hr
  have hp := posts_of_posting (δ := Float) ht hq hv r
  refine ⟨.behind t (r.result n.url), ?_, Stage.behind_leaves hr (.inr rfl)⟩
  rcases hg with rfl | rfl
  · exact Stage.Rule.post hp hm
  · exact Stage.Rule.repost hp

/-- From a fresh nonce on, the transaction is in hand until a reply settles it. -/
lemma submit_staged (ht : t.toBase64 = .ok text) (hm : t.transaction.Takes l m)
    (level : WaitLevel) :
    (n.submit t level).run.Follows (Stage.discipline n.url l) Stage.Answered (.fresh m) := by
  have hcall : (n.call "send_tx" (posting text level)).run.Follows (Stage.discipline n.url l)
      Stage.Answered (.fresh m) := by
    refine RetryPolicy.attemptsFrom_follows (fun _ g hg => attempt_staged ht hm level hg)
      (fun _ _ _ => Stage.Rule.quiet trivial) ?_ _ _ _ (.inl rfl)
    intro e g _ h _ v he hv
    obtain rfl := Except.error.inj he
    rw [RetryPolicy.throws_rejection h] at hv
    cases hv
  rw [Node.submit, ht]
  change ExceptT.run (do Node.read View.Outcome.shape (← n.call "send_tx" (posting text level)))
    |>.Follows _ _ _
  refine Act.follows_bind hcall (fun g v _ e w he hw => ?_) fun g e h f v hf hv => ?_
  · obtain ⟨f, rfl⟩ := (View.Outcome.shape_plain v).toExcept he
    cases hw
  · obtain rfl := Except.error.inj hf
    exact h _ v rfl hv

end Post

/-! ### Whole sends -/

namespace Draft

/-- What an attempt starts with: the pending nonce, or the need for one. -/
def opening : Option Int → Stage
  | none => .idle
  | some m => .fresh m

lemma nonce_staged [Span δ] (n : Node δ) (h : Holder) (k : KeyPair) :
    (NonceCache.claim (h.line k) (ledgerNonce n h k)).run.Follows
      (Stage.discipline url (h.line k)) (fun g r => ∀ m, r = .ok m → g = .fresh m) .idle :=
  NonceCache.claim_staged ((n.viewAccessKey_quiet _ _ _).bind (fun _ _ => trivial)
    fun _ _ => trivial)

/-- Only where a submission ends with an error, something may follow it. -/
lemma post_staged (d : Draft) (n : Node Float) (h : Holder) (k : KeyPair) (m : Int)
    {f : Error → Act Shared Float View.Outcome}
    (hf : ∀ g e, Stage.Answered g (.error e : Except Error View.Outcome) →
      (f e).run.Follows (Stage.discipline n.url (h.line k)) (fun _ _ => True) g) :
    (d.post n h k m f).run.Follows (Stage.discipline n.url (h.line k)) (fun _ _ => True)
      (.fresh m) := by
  refine Act.follows_bind ((d.signFor_quiet n h k m).staged _) (fun g s hs => ?_)
    fun _ _ _ => True.intro
  obtain ⟨rfl, hs⟩ := hs
  obtain ⟨ht, text, htext⟩ := hs s rfl
  refine Act.follows_andThen (submit_staged htext ht d.level) fun g r hr => ?_
  cases r with
  | ok o => exact True.intro
  | error e => exact hf g e hr

lemma attempt_staged (d : Draft) (n : Node Float) (h : Holder) (k : KeyPair)
    (pending : Option Int) {f : Error → Act Shared Float View.Outcome}
    (hf : ∀ g e, Stage.Answered g (.error e : Except Error View.Outcome) →
      (f e).run.Follows (Stage.discipline n.url (h.line k)) (fun _ _ => True) g) :
    (d.attempt n h k pending f).run.Follows (Stage.discipline n.url (h.line k))
      (fun _ _ => True) (opening pending) := by
  cases pending with
  | some m => exact d.post_staged n h k m hf
  | none =>
    refine Act.follows_bind (nonce_staged n h k) (fun g m hg => ?_) fun _ _ _ => True.intro
    obtain rfl := hg m rfl
    exact d.post_staged n h k m hf

/-- By induction on the attempts that are left: each one starts from a nonce at hand or from
nothing, and only a rejection leads to the next. -/
theorem attempts_staged (d : Draft) (n : Node Float) (h : Holder) (k : KeyPair) (spare : Nat)
    (pending : Option Int) :
    (d.attempts n h k spare pending).run.Follows (Stage.discipline n.url (h.line k))
      (fun _ _ => True) (opening pending) := by
  induction spare generalizing pending with
  | zero =>
    rw [attempts]
    exact d.attempt_staged n h k pending fun _ _ _ => True.intro
  | succ left ih =>
    rw [attempts]
    refine d.attempt_staged n h k pending fun g e he => ?_
    cases hv : e.rejection? with
    | none => exact True.intro
    | some v =>
      obtain ⟨a, ha, rfl⟩ := he e v rfl hv
      refine Act.follows_bind (afterRejection_staged ha) (fun g m hm => ?_) fun _ _ _ => True.intro
      obtain ⟨m', rfl, rfl⟩ := hm m rfl
      exact ih (some m')

/-- A send that can be made claims a key and goes on with it. -/
lemma send_run [Span δ] {d : Draft} {h : Holder} (hr : d.ready = .ok h) (n : Node δ) :
    (d.send n).run = .step (·.nextTurn h.seat) fun s =>
      (d.attempts n h (h.signer.key (s.turn h.seat)) spareAttempts none).run := by
  rw [send, hr]
  rfl

/-- **Stages.** Every run of a send leads through the stages, on the line of one key. -/
theorem send_staged (d : Draft) (n : Node Float) {ms : List (Move Shared Float)}
    {y : Dialogue Shared Float (Except Error View.Outcome)} (h : (d.send n).run.Runs ms y)
    (hs : ∀ m ∈ ms, m.Meets Reply.NamesLedger) :
    ∃ l g, (Stage.discipline n.url l).Leads .idle ms g := by
  cases hr : d.ready with
  | error e =>
    rw [send, hr] at h
    change (done (.error e)).Runs ms y at h
    obtain ⟨rfl, _⟩ := runs_done h
    exact ⟨"", .idle, .nil _⟩
  | ok holder =>
    rw [send_run hr] at h
    rcases runs_step h with ⟨rfl, _⟩ | ⟨s, ms', rfl, hy⟩
    · exact ⟨"", .idle, .nil _⟩
    · let k := holder.signer.key (s.turn holder.seat)
      obtain ⟨_, hs⟩ := List.forall_mem_cons.1 hs
      obtain ⟨g, hl, _⟩ := (d.attempts_staged n holder k spareAttempts none).runs hy hs
      exact ⟨holder.line k, g, .cons (.quiet rfl) hl⟩

end Draft

end LedgerClient
