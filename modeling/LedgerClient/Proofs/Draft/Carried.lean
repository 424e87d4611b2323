import LedgerClient.Proofs.Draft.Phase
import LedgerClient.Proofs.Draft.Renewal
import LedgerClient.Proofs.Draft.Trace

/-!
What a send submits. Every transaction that it posts is the draft as it was written, under the one
key that the send has claimed, for the nonce that was last handed out and the block that was last
described, and signed by that key.
-/

namespace LedgerClient

open Dialogue

variable {δ : Type} {url l : String} {sign : Int → Digest → Except Error SignedTransaction}
  {m : Move Shared δ} {ms ns : List (Move Shared δ)} {n : Int} {b : Digest} {g g' : Phase}
  {q : Request} {r : Reply}

/-! ### Attempts -/

/-- No nonce of the line is handed out in these moves. -/
def Steady (l : String) (ms : List (Move Shared δ)) : Prop := ∀ m ∈ ms, ∀ a, ¬ m.Issues l a

/-- The last nonce of the line that is handed out in these moves. -/
def LastIssued (l : String) (n : Int) (ms : List (Move Shared δ)) : Prop :=
  ∃ before m after, ms = before ++ m :: after ∧ m.Issues l n ∧ Steady l after

/-- No block is asked for in these moves. -/
def Blockless (ms : List (Move Shared δ)) : Prop :=
  ∀ q r, .exchange q r ∈ ms → q.method ≠ "block"

/-- The moves end within an attempt: the nonce is the last one that was handed out, and behind it
the last request for a block was answered with this one. -/
def Attempted (url l : String) (n : Int) (b : Digest) (ms : List (Move Shared δ)) : Prop :=
  ∃ before q r after, ms = before ++ .exchange q r :: after ∧ LastIssued l n before ∧
    q.method = "block" ∧ r.origin? url = some b ∧ Steady l after ∧ Blockless after

lemma Steady.append (h : Steady l ms) (h' : Steady l ns) : Steady l (ms ++ ns) :=
  List.forall_mem_append.2 ⟨h, h'⟩

lemma steady_singleton (h : ∀ a, ¬ m.Issues l a) : Steady l [m] := by simpa [Steady] using h

lemma steady_exchange : Steady l [(.exchange q r : Move Shared δ)] :=
  steady_singleton fun _ => Move.not_issues_exchange

lemma LastIssued.append (h : LastIssued l n ms) (hs : Steady l ns) : LastIssued l n (ms ++ ns) := by
  obtain ⟨before, m, after, rfl, hm, ha⟩ := h
  exact ⟨before, m, after ++ ns, by simp, hm, ha.append hs⟩

lemma lastIssued_of_issues (h : m.Issues l n) : LastIssued l n (ms ++ [m]) :=
  ⟨ms, m, [], rfl, h, by simp [Steady]⟩

lemma Attempted.append (h : Attempted url l n b ms) (hs : Steady l ns) (hb : Blockless ns) :
    Attempted url l n b (ms ++ ns) := by
  obtain ⟨before, q, r, after, rfl, hn, hq, hr, ha, hblock⟩ := h
  refine ⟨before, q, r, after ++ ns, by simp, hn, hq, hr, ha.append hs, fun q' r' hm => ?_⟩
  exact (List.mem_append.1 hm).elim (hblock q' r') (hb q' r')

lemma LastIssued.answered (h : LastIssued l n ms) (hq : q.method = "block")
    (hr : r.origin? url = some b) : Attempted url l n b (ms ++ [.exchange q r]) :=
  ⟨ms, q, r, [], rfl, h, hq, hr, by simp [Steady], by simp [Blockless]⟩

namespace Move

lemma Idle.steady (h : m.Idle) : Steady l [m] := steady_singleton fun _ hi => hi.spares h.spares

lemma Idle.blockless (h : m.Idle) : Blockless [m] := by
  intro q r hm
  obtain rfl := List.mem_singleton.1 hm
  exact h.elim

lemma Posts.blockless {t : SignedTransaction} (h : m.Posts t r) : Blockless [m] := by
  intro q' r' hm hq
  obtain rfl := List.mem_singleton.1 hm
  have hne : q'.method ≠ "send_tx" := by
    rw [hq]
    decide
  exact h.not_quiet hne

end Move

/-! ### Phases and attempts -/

namespace Phase

/-- What is in hand comes from the moves of this attempt. -/
def Held (url l : String) (ms : List (Move Shared δ)) : Phase → Prop
  | keyed => True
  | fresh n => LastIssued l n ms
  | dated n b | sent n b => Attempted url l n b ms

lemma Held.attempted (h : Held url l ms g) (hg : g.ready? = some (n, b)) :
    Attempted url l n b ms := by
  cases g with
  | keyed | fresh n' => cases hg
  | dated n' b' | sent n' b' =>
    cases hg
    exact h

/-- The step lemma: with each move it stays so. -/
lemma Held.step (h : Held url l ms g) (hr : Rule url l sign g m g') :
    Held url l (ms ++ [m]) g' := by
  cases hr with
  | idle hm =>
    cases g with
    | keyed => trivial
    | fresh n => exact LastIssued.append h hm.steady
    | dated n b | sent n b => exact Attempted.append h hm.steady hm.blockless
  | query _ | forget _ _ => trivial
  | claim hi | renew _ hi => exact lastIssued_of_issues hi
  | @block q r n hq =>
    cases hb : r.origin? url with
    | none => exact LastIssued.append h steady_exchange
    | some b => exact LastIssued.answered h hq hb
  | post hg _ hp =>
    exact (h.attempted hg).append (steady_singleton fun _ => hp.not_issues) hp.blockless

/-- The run lemma. -/
lemma Held.leads (h : Held url l ms g) (hl : (discipline url l sign).Leads g ns g') :
    Held url l (ms ++ ns) g' := by
  induction hl generalizing ms with
  | nil g => rwa [List.append_nil]
  | cons hr _ ih =>
    have := ih (h.step hr)
    rwa [List.append_assoc] at this

lemma held_of_leads (hl : (discipline url l sign).Leads keyed ms g) : Held url l ms g :=
  Held.leads (show Held url l [] keyed from trivial) hl

lemma rule_keepsTurns (hr : Rule url l sign g m g') : m.KeepsTurns := by
  cases hr with
  | idle hm => exact hm.keepsTurns
  | query _ | block _ => trivial
  | claim hi | renew _ hi => exact hi.keepsTurns
  | post _ _ hp =>
    obtain ⟨q, text, rfl, -⟩ := hp
    trivial
  | forget _ hf => exact hf.keepsTurns

/-- Only what is signed for the nonce and the block in hand goes to where transactions are
submitted. -/
lemma rule_submits (hr : Rule url l sign g (.exchange q r : Move Shared δ) g')
    (hq : q.method = "send_tx") : ∃ n b t text, g.ready? = some (n, b) ∧ sign n b = .ok t ∧
      q.posted? = some text ∧ t.toBase64 = .ok text ∧ g' = sent n b := by
  cases hr with
  | idle hm => exact hm.elim
  | query hm | block hm => exact absurd (hm.symm.trans hq) (by decide)
  | claim hi | renew _ hi => exact absurd hi Move.not_issues_exchange
  | forget _ hf =>
    obtain ⟨s, hm⟩ := hf
    cases hm
  | post hg hs hp =>
    obtain ⟨q', text, hm, hp, ht⟩ := hp
    cases hm
    exact ⟨_, _, _, text, hg, hs, hp, ht, rfl⟩

/-- Without another nonce an attempt keeps to its transaction, or is over. -/
lemma sent_of_steady (hg : g = sent n b ∨ g = keyed)
    (hl : (discipline url l sign).Leads g ms g') (hs : Steady l ms) :
    g' = sent n b ∨ g' = keyed := by
  induction hl with
  | nil g => exact hg
  | @cons g g' _ m ms hr _ ih =>
    obtain ⟨hm, hs⟩ := List.forall_mem_cons.1 hs
    refine ih ?_ hs
    cases hr with
    | idle _ => exact hg
    | query _ | forget _ _ => exact .inr rfl
    | claim hi | renew _ hi => exact absurd hi (hm _)
    | block _ => simp at hg
    | post hg' _ _ =>
      rcases hg with rfl | rfl
      · cases hg'
        exact .inl rfl
      · cases hg'

end Phase

/-! ### What is carried -/

/-- What the key signs verifies under its own public key. -/
def SecretKey.VerifiesOwn (k : SecretKey) : Prop :=
  ∀ message, k.publicKey.verify message (k.sign message) = .ok true

/-- The transaction is the draft as it was written, signed with the key for the attempt that these
moves end in. -/
structure Draft.Carried (d : Draft) (url : String) (h : Holder) (k : KeyPair)
    (ms : List (Move Shared δ)) (t : SignedTransaction) : Prop where
  signer : t.transaction.signer = h.signer.account
  publicKey : t.transaction.publicKey = k.publicKey
  receiver : t.transaction.receiver = d.receiver
  actions : t.transaction.actions = d.actions
  attempt : ∃ n, t.transaction.nonce = .whole n ∧
    Attempted url (h.line k) n t.transaction.blockHash ms
  signature : ∃ bs, t.transaction.toBytes = .ok bs ∧
    t.signature = k.secret.sign (Sha256.digest bs)
  verifies : k.secret.VerifiesOwn → t.verify = .ok true

namespace Draft

variable {d : Draft} {h : Holder} {k : KeyPair} {t : SignedTransaction}

lemma carried_of_signed (hs : d.signed h k n b = .ok t) (ha : Attempted url (h.line k) n b ms) :
    d.Carried url h k ms t := by
  obtain ⟨bs, hbs, ht⟩ := Transaction.sign_eq hs
  rw [ht]
  refine ⟨rfl, rfl, rfl, rfl, ⟨n, rfl, ha⟩, ⟨bs, hbs, rfl⟩, fun hv => ?_⟩
  rw [SignedTransaction.verify, SignedTransaction.digest, Transaction.digest, hbs]
  change k.publicKey.verify (Digest.of bs).bytes _ = _
  rw [k.publicKey_eq]
  exact hv _

lemma ready_of (ha : d.actions ≠ []) (hh : d.signer? = some h) : d.ready = .ok h := by
  have hactions : d.requireActions = .ok () := by simp [requireActions, ha]
  have hsigner : d.requireSigner = .ok h := by rw [requireSigner, hh]
  rw [ready, hactions, hsigner]
  rfl

variable [Span δ]

/-- **What a send submits.** Every run of a send of a draft with actions and a signer, finished or
not, with any replies and whatever others do meanwhile. It claims a key at the start and none later.
Each request to submit carries the draft as it was written, signed with that key for the nonce and
the block of its attempt; and without another nonce in between, two of them carry the same text. -/
theorem send_carries (d : Draft) (node : Node δ) (h : Holder) (ha : d.actions ≠ [])
    (hh : d.signer? = some h) (ms : List (Move Shared δ))
    (y : Dialogue Shared δ (Except Error View.Outcome)) (hr : (d.send node).run.Runs ms y) :
    (ms = [] ∧ y.result? = none) ∨ ∃ s rest k, ms = .change (·.nextTurn h.seat) s :: rest ∧
      k = h.signer.key (s.turn h.seat) ∧ (∀ m ∈ rest, m.KeepsTurns) ∧
      (∀ before q r after, rest = before ++ .exchange q r :: after → q.method = "send_tx" →
        ∃ text t, q.posted? = some text ∧ SignedTransaction.ofBase64 text = .ok t ∧
          d.Carried node.url h k before t) ∧
      ∀ before q r between q' r' after,
        rest = before ++ .exchange q r :: (between ++ .exchange q' r' :: after) →
        q.method = "send_tx" → q'.method = "send_tx" → Steady (h.line k) between →
        q'.posted? = q.posted? := by
  refine (send_phased (ready_of ha hh) hr).imp_right fun ⟨s, rest, g, hms, hl⟩ => ?_
  refine ⟨s, rest, _, hms, rfl, fun m hm => ?_, ?_, ?_⟩
  · obtain ⟨before, after, rfl⟩ := List.append_of_mem hm
    obtain ⟨_, _, -, hrule, -⟩ := hl.at
    exact Phase.rule_keepsTurns hrule
  · rintro before q r after rfl hq
    obtain ⟨g₁, _, hbefore, hrule, -⟩ := hl.at
    obtain ⟨n, b, t, text, hready, hsigned, hposted, htext, -⟩ := Phase.rule_submits hrule hq
    have ha := (Phase.held_of_leads hbefore).attempted hready
    exact ⟨text, t, hposted, SignedTransaction.ofBase64_of_toBase64 htext,
      carried_of_signed hsigned ha⟩
  · rintro before q r between q' r' after rfl hq hq' hs
    obtain ⟨_, _, -, hrule, hl⟩ := hl.at
    obtain ⟨n, b, t, text, -, hsigned, hposted, htext, rfl⟩ := Phase.rule_submits hrule hq
    obtain ⟨g₂, _, hbetween, hrule', -⟩ := hl.at
    obtain ⟨n', b', t', text', hready, hsigned', hposted', htext', -⟩ :=
      Phase.rule_submits hrule' hq'
    -- the phase at the second post is that behind the first one
    rcases Phase.sent_of_steady (.inl rfl) hbetween hs with rfl | rfl
    · obtain ⟨rfl, rfl⟩ : n = n' ∧ b = b' := by simpa [Phase.ready?] using hready
      obtain rfl := Except.ok.inj (hsigned.symm.trans hsigned')
      rw [hposted, hposted', Except.ok.inj (htext.symm.trans htext')]
    · cases hready

end Draft

open Gifts in
/-- A send that posts its first transaction twice, and another one behind a rejection. -/
theorem gift_carried : ∃ ms y s rest, (gift.send testNode).run.Runs ms y ∧
    (submissions ms).length = 3 ∧ gift.actions ≠ [] ∧ gift.signer? = some alice ∧
    ms = .change (·.nextTurn alice.seat) s :: rest ∧
    ∀ before q r after, rest = before ++ .exchange q r :: after → q.method = "send_tx" →
      ∃ text t, q.posted? = some text ∧ SignedTransaction.ofBase64 text = .ok t ∧
        gift.Carried testNode.url alice (.ofSecret secret) before t := by
  obtain ⟨_, _, _, ms, c, _, _, _, h, hsubs, -, -⟩ := Gifts.run [.timedOut] (by decide)
    (by simpa using timedOut_unsettled _)
  have hrun : (gift.send testNode).run.Runs (own true ms) (c.party true) := h.own true
  have hactions : gift.actions ≠ [] := by decide
  rcases gift.send_carries testNode alice hactions rfl _ _ hrun with
    ⟨hnil, -⟩ | ⟨s, rest, k, hms, rfl, -, hposts, -⟩
  · rw [hnil] at hsubs
    cases hsubs
  · rw [alice_key] at hposts
    exact ⟨_, _, s, rest, hrun, by rw [hsubs]; rfl, hactions, rfl, hms, hposts⟩

end LedgerClient
