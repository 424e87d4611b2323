import LedgerClient.Proofs.Draft.Stage

/-!
The phases of an attempt to send: a claimed key, a nonce for it, the block that is answered then,
and posts of the one transaction that is signed for both. The replies may be anything here, and
others may do anything in between.
-/

namespace LedgerClient

open Dialogue

variable {δ α : Type}

/-! ### Moves -/

namespace Move

/-- The change leaves the turns of every state alone, so that no key is claimed. -/
def KeepsTurns : Move Shared δ → Prop
  | change f _ => ∀ s, (f s).turns = s.turns
  | _ => True

/-- Asks for nothing, and leaves the nonces and the turns alone. -/
def Idle : Move Shared δ → Prop
  | change f s => (f s).nonces = s.nonces ∧ ∀ t, (f t).turns = t.turns
  | exchange _ _ => False
  | pause _ => True

/-- Drops the line. -/
def Forgets (l : String) (m : Move Shared δ) : Prop :=
  ∃ s, m = .change (Shared.perform (.forget l)) s

variable {m : Move Shared δ} {l : String} {n : Int} {q : Request} {r : Reply}

lemma Idle.keepsTurns (h : m.Idle) : m.KeepsTurns := by
  cases m with
  | change f s => exact h.2
  | exchange q r | pause d => trivial

lemma Idle.spares (h : m.Idle) : m.Spares := by
  cases m with
  | change f s => exact h.1
  | exchange q r | pause d => trivial

lemma Issues.keepsTurns (h : m.Issues l n) : m.KeepsTurns := by
  obtain ⟨op, s, rfl, -⟩ := h
  exact fun _ => rfl

lemma not_issues_exchange : ¬ (exchange q r : Move Shared δ).Issues l n := by
  rintro ⟨op, s, hm, -⟩
  cases hm

lemma Forgets.keepsTurns (h : m.Forgets l) : m.KeepsTurns := by
  obtain ⟨s, rfl⟩ := h
  exact fun _ => rfl

end Move

lemma Shared.dial_turns (s : Shared) (i : Nat) (timeout : Value) :
    (s.dial i timeout).turns = s.turns := by
  simp only [dial]
  split <;> rfl

/-- The digest of the block that an answer describes. -/
def View.Block.origin? (v : Value) : Option Digest :=
  match (View.Block.shape v).toExcept with
  | .ok b => b.header.digest.toOption
  | .error _ => none

/-- The digest of the block that a reply describes. -/
def Reply.origin? (url : String) (r : Reply) : Option Digest :=
  match r.result url with
  | .ok v => View.Block.origin? v
  | .error _ => none

/-! ### Phases -/

/-- How far an attempt has got with the claimed key. -/
inductive Phase where
  | keyed
  /-- With a nonce of the key. -/
  | fresh (n : Int)
  /-- With a nonce and a block. -/
  | dated (n : Int) (b : Digest)
  /-- The transaction for both has been posted. -/
  | sent (n : Int) (b : Digest)

namespace Phase

/-- The nonce and the block to sign for. -/
def ready? : Phase → Option (Int × Digest)
  | dated n b | sent n b => some (n, b)
  | _ => none

/-- What an attempt starts with: the pending nonce, or just the key. -/
def opening : Option Int → Phase
  | none => keyed
  | some n => fresh n

/-- With a nonce, and with a block if one was described. -/
def dating (n : Int) : Option Digest → Phase
  | none => fresh n
  | some b => dated n b

/-- What an attempt may do in each phase, with its nonces on one line and this way to sign. Behind
a post the next attempt may start, from another nonce or, where the line is dropped, from none. -/
inductive Rule (url l : String) (sign : Int → Digest → Except Error SignedTransaction) :
    Phase → Move Shared δ → Phase → Prop
  | idle {g : Phase} {m : Move Shared δ} : m.Idle → Rule url l sign g m g
  | query {q : Request} {r : Reply} : q.method = "query" →
    Rule url l sign keyed (.exchange q r) keyed
  | claim {m : Move Shared δ} {n : Int} : m.Issues l n → Rule url l sign keyed m (fresh n)
  | block {q : Request} {r : Reply} {n : Int} : q.method = "block" →
    Rule url l sign (fresh n) (.exchange q r) (dating n (r.origin? url))
  | post {g : Phase} {m : Move Shared δ} {t : SignedTransaction} {r : Reply} {n : Int}
    {b : Digest} : g.ready? = some (n, b) → sign n b = .ok t → m.Posts t r →
    Rule url l sign g m (sent n b)
  | renew {g : Phase} {m : Move Shared δ} {n n' : Int} {b : Digest} :
    g.ready? = some (n, b) → m.Issues l n' → Rule url l sign g m (fresh n')
  | forget {g : Phase} {m : Move Shared δ} {n : Int} {b : Digest} :
    g.ready? = some (n, b) → m.Forgets l → Rule url l sign g m keyed

/-- The discipline of the attempts of a send, whatever the replies. -/
def discipline (url l : String) (sign : Int → Digest → Except Error SignedTransaction) :
    Discipline Shared δ Phase := ⟨fun _ => True, Rule url l sign⟩

end Phase

variable {url l : String} {sign : Int → Digest → Except Error SignedTransaction}

/-! ### Calls -/

/-- What two acts keep up one after the other, they keep up together. -/
lemma Act.follows_keeping {σ η β : Type} {D : Discipline σ δ η} {I : η → Prop} {g : η}
    {x : Act σ δ α} {f : α → Act σ δ β} (hx : x.run.Follows D (fun g _ => I g) g)
    (hf : ∀ g a, I g → (f a).run.Follows D (fun g _ => I g) g) :
    (x >>= f).run.Follows D (fun g _ => I g) g := Act.follows_bind hx hf fun _ _ hg => hg

section Calls

variable [Span δ] {n : Node δ} {g : Phase} {t : SignedTransaction} {m : Int} {b : Digest}

/-- A call keeps to the rule if each of its requests does. -/
lemma Node.call_phased {method : String} {params : Value} {I : Phase → Prop}
    {post : Phase → Except Error Value → Prop}
    (hq : ∀ g q r, I g → q.method = method → q.params = params →
      ∃ g', Phase.Rule n.url l sign g (.exchange q r : Move Shared δ) g' ∧
        RetryPolicy.Leaves I post g' (r.result n.url))
    (ht : ∀ g e, I g → post g (.error e)) (hg : I g) :
    (n.call method params).run.Follows (Phase.discipline n.url l sign) post g :=
  RetryPolicy.attemptsFrom_follows
    (fun _ g hg => Node.attempt_follows
      (fun s => Phase.Rule.idle
        (show (Move.change (·.dial n.line n.timeout) s : Move Shared δ).Idle from
          ⟨s.dial_nonces _ _, fun t => t.dial_turns _ _⟩))
      (fun _ _ => ht g _ hg) fun q r hm hp _ => hq g q r hg hm hp)
    (fun d _ _ => Phase.Rule.idle (show (Move.pause d : Move Shared δ).Idle from trivial))
    (fun e g hg _ => ht g e hg) _ _ _ hg

/-- What a call keeps up throughout, it leaves behind as well, whatever it comes to. -/
lemma Node.call_keeps {method : String} {params : Value} {I : Phase → Prop}
    (hq : ∀ g q r, I g → q.method = method → q.params = params →
      ∃ g', Phase.Rule n.url l sign g (.exchange q r : Move Shared δ) g' ∧ I g') (hg : I g) :
    (n.call method params).run.Follows (Phase.discipline n.url l sign) (fun g _ => I g) g := by
  refine Node.call_phased (I := I) (fun g q r hg hm hp => ?_) (fun _ _ hg => hg) hg
  obtain ⟨g', hr, hg'⟩ := hq g q r hg hm hp
  refine ⟨g', hr, ?_⟩
  cases r.result n.url with
  | ok v => exact hg'
  | error e =>
    simp only [RetryPolicy.Leaves]
    split <;> exact hg'

lemma Draft.ledgerNonce_phased (n : Node δ) (h : Holder) (k : KeyPair) :
    (ledgerNonce n h k).run.Follows (Phase.discipline n.url l sign) (fun g _ => g = .keyed)
      .keyed := by
  have hcall (params : Value) : (n.call "query" params).run.Follows
      (Phase.discipline n.url l sign) (fun g _ => g = .keyed) .keyed := by
    refine Node.call_keeps (I := (· = .keyed)) ?_ rfl
    rintro _ q r rfl hm -
    exact ⟨.keyed, .query hm, rfl⟩
  exact Act.follows_keeping (Act.follows_keeping (hcall _) fun _ _ hg => hg) fun _ _ hg => hg

/-- Behind a block that is described, the attempt has its digest. -/
lemma Node.block_phased (n : Node δ) (ref : BlockRef) (m : Int) :
    (n.block ref).run.Follows (Phase.discipline n.url l sign)
      (fun g r => ∀ v b, r = .ok v → v.header.digest = .ok b → g = .dated m b) (.fresh m) := by
  have hcall : (n.call "block" (.object ref.params)).run.Follows (Phase.discipline n.url l sign)
      (fun g r => ∀ v, r = .ok v → g = .dating m (View.Block.origin? v)) (.fresh m) := by
    refine Node.call_phased (I := (· = .fresh m)) ?_ (fun _ _ _ _ h => by cases h) rfl
    rintro _ q r rfl hm -
    refine ⟨.dating m (r.origin? n.url), .block hm, ?_⟩
    unfold Reply.origin?
    cases r.result n.url with
    | ok v =>
      rintro _ ⟨⟩
      rfl
    | error e =>
      simp only [RetryPolicy.Leaves]
      split
      · rfl
      · intro _ h
        cases h
  refine Act.follows_bind hcall (fun g v hg w b hw hb => ?_) fun g e _ _ _ h => by cases h
  have hw : (View.Block.shape v).toExcept = .ok w := hw
  rw [hg v rfl, View.Block.origin?, hw]
  simp only [hb]
  rfl

/-- Every post is of the transaction that is signed for the nonce and the block. -/
lemma Node.submit_phased (hs : sign m b = .ok t) (hg : g.ready? = some (m, b))
    (level : WaitLevel) :
    (n.submit t level).run.Follows (Phase.discipline n.url l sign)
      (fun g _ => g.ready? = some (m, b)) g := by
  unfold Node.submit
  cases ht : t.toBase64 with
  | error e => exact hg
  | ok text =>
    change ExceptT.run (do Node.read View.Outcome.shape (← n.call "send_tx" (posting text level)))
      |>.Follows _ _ _
    refine Act.follows_keeping (Node.call_keeps (I := (·.ready? = some (m, b))) ?_ hg)
      fun _ _ hg => hg
    intro g q r hg hm hp
    exact ⟨.sent m b, .post hg hs (posts_of_posting ht hm hp r), rfl⟩

end Calls

/-! ### Nonces -/

lemma Draft.afterRejection_phased {g : Phase} {m : Int} {b : Digest}
    (hg : g.ready? = some (m, b)) (ledgers : Value) :
    (Draft.afterRejection l ledgers).run.Follows (Phase.discipline (δ := δ) url l sign)
      (fun g' r => ∀ p, r = .ok p → g' = .opening p) g := by
  cases ha : ledgers.whole? with
  | some a =>
    rw [Draft.afterRejection_run ha]
    intro s
    dsimp only
    rw [NonceCache.Step.renewal]
    rcases NonceCache.run_spec (.reconcile l a) rfl s.nonces with ⟨_, hr⟩ | ⟨n, hr, _, _⟩
    · rw [hr]
      exact ⟨g, .idle ⟨congrArg Prod.snd hr, fun _ => rfl⟩, fun p hp => by cases hp⟩
    · rw [hr]
      refine ⟨.fresh n, .renew hg ⟨_, s, rfl, rfl, congrArg Prod.fst hr⟩, ?_⟩
      rintro _ ⟨⟩
      rfl
  | none =>
    rw [Draft.afterRejection, ha]
    split
    · intro s
      refine ⟨.keyed, .forget hg ⟨s, rfl⟩, ?_⟩
      rintro _ ⟨⟩
      rfl
    · rintro _ ⟨⟩

/-! ### Whole sends -/

namespace Draft

variable [Span δ]

/-- The draft, signed by the key for a nonce and a block. -/
def signed (d : Draft) (h : Holder) (k : KeyPair) (m : Int) (b : Digest) :
    Except Error SignedTransaction := (d.transaction h k.publicKey (.whole m) b).sign k.secret

/-- The discipline of the attempts with one key. -/
abbrev phases (d : Draft) (n : Node δ) (h : Holder) (k : KeyPair) : Discipline Shared δ Phase :=
  Phase.discipline n.url (h.line k) (d.signed h k)

variable (d : Draft) (n : Node δ) (h : Holder) (k : KeyPair)

lemma claim_phased :
    (NonceCache.claim (h.line k) (ledgerNonce n h k)).run.Follows (d.phases n h k)
      (fun g r => ∀ m, r = .ok m → g = .fresh m) .keyed :=
  NonceCache.claim_follows (ledgerNonce_phased n h k) (fun _ _ hg => hg)
    (fun _ _ hs => .idle ⟨hs, fun _ => rfl⟩) fun _ _ hi => .claim hi

lemma signFor_phased (m : Int) :
    (d.signFor n h k m).run.Follows (d.phases n h k)
      (fun g r => ∀ t, r = .ok t → ∃ b, g = .dated m b ∧ d.signed h k m b = .ok t)
      (.fresh m) := by
  refine Act.follows_bind (n.block_phased _ m) (fun g v hg => ?_) fun _ _ _ _ ht => by cases ht
  cases hb : v.header.digest with
  | error e =>
    intro t ht
    cases ht
  | ok b => exact fun t ht => ⟨b, hg v b rfl hb, ht⟩

-- the text of what is submitted is not to be worked out where a goal is taken apart
attribute [local irreducible] SignedTransaction.toBase64

/-- Only with a nonce and a block in hand, something may follow a submission. -/
lemma post_phased (m : Int) {f : Error → Act Shared δ View.Outcome}
    (hf : ∀ g b e, g.ready? = some (m, b) →
      (f e).run.Follows (d.phases n h k) (fun _ _ => True) g) :
    (d.post n h k m f).run.Follows (d.phases n h k) (fun _ _ => True) (.fresh m) := by
  refine Act.follows_bind (d.signFor_phased n h k m) (fun g t ht => ?_) fun _ _ _ => True.intro
  obtain ⟨b, rfl, hs⟩ := ht t rfl
  refine Act.follows_andThen (Node.submit_phased hs rfl d.level) fun g r hg => ?_
  cases r with
  | ok o => exact True.intro
  | error e => exact hf g b e hg

lemma attempt_phased (pending : Option Int) {f : Error → Act Shared δ View.Outcome}
    (hf : ∀ g m b e, g.ready? = some (m, b) →
      (f e).run.Follows (d.phases n h k) (fun _ _ => True) g) :
    (d.attempt n h k pending f).run.Follows (d.phases n h k) (fun _ _ => True)
      (.opening pending) := by
  cases pending with
  | some m => exact d.post_phased n h k m fun g => hf g m
  | none =>
    refine Act.follows_bind (d.claim_phased n h k) (fun g m hg => ?_) fun _ _ _ => True.intro
    obtain rfl := hg m rfl
    exact d.post_phased n h k m fun g => hf g m

/-- By induction on the attempts that are left: behind a submission the next one starts from a new
nonce or from just the key. -/
theorem attempts_phased (spare : Nat) (pending : Option Int) :
    (d.attempts n h k spare pending).run.Follows (d.phases n h k) (fun _ _ => True)
      (.opening pending) := by
  induction spare generalizing pending with
  | zero =>
    rw [attempts]
    exact d.attempt_phased n h k pending fun _ _ _ _ _ => True.intro
  | succ left ih =>
    rw [attempts]
    refine d.attempt_phased n h k pending fun g m b e hg => ?_
    cases e.rejection? with
    | none => exact True.intro
    | some ledgers =>
      refine Act.follows_bind (afterRejection_phased hg ledgers) (fun g' p hp => ?_)
        fun _ _ _ => True.intro
      obtain rfl := hp p rfl
      exact ih p

variable {d n h}

/-- **Phases.** Every run of a send that can be made starts with the claim of a key, and goes on
through the phases with that key. -/
theorem send_phased (hd : d.ready = .ok h) {ms : List (Move Shared δ)}
    {y : Dialogue Shared δ (Except Error View.Outcome)} (hr : (d.send n).run.Runs ms y) :
    (ms = [] ∧ y.result? = none) ∨ ∃ s rest g, ms = .change (·.nextTurn h.seat) s :: rest ∧
      (d.phases n h (h.signer.key (s.turn h.seat))).Leads .keyed rest g := by
  rw [send_run hd] at hr
  rcases runs_step hr with ⟨rfl, rfl⟩ | ⟨s, rest, rfl, hy⟩
  · exact .inl ⟨rfl, rfl⟩
  · obtain ⟨g, hl, -⟩ := (d.attempts_phased n h _ spareAttempts none).runs hy fun m _ => by
      cases m <;> trivial
    exact .inr ⟨s, rest, g, rfl, hl⟩

end Draft

end LedgerClient
