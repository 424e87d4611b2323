import LedgerClient.Proofs.Draft.Alone
import LedgerClient.Proofs.Text.Numeral
import LedgerClient.Proofs.Transaction.Closed

/-!
A send from end to end whose transaction is rejected. Whatever failures leave it open whether the
node has taken the transaction, a rejection behind them makes the send sign another one. Two things
can keep a draft from it: that it cannot be signed, and that the ledger's nonce has no successor
which is written out.
-/

namespace LedgerClient

open Dialogue

variable {δ : Type} {s : Shared}

/-! ### Signed texts -/

/-- The draft is signed for the nonce, on this block. -/
def Draft.Signs (d : Draft) (h : Holder) (k : KeyPair) (m : Int) (o : Digest) : Prop :=
  ∃ x, (d.transaction h k.publicKey (.whole m) o).sign k.secret = .ok x

/-- What a draft is signed for has 64 bits, and few digits. -/
lemma Draft.Signs.short {d : Draft} {h : Holder} {k : KeyPair} {m : Int} {o : Digest}
    (hm : d.Signs h k m o) : Text.isOverlong m = false := by
  obtain ⟨x, hx⟩ := hm
  obtain ⟨bs, hb, -⟩ := Transaction.sign_eq hx
  have hfits : Width.u64.fits m = true := (Transaction.inRange ⟨bs, hb⟩).2.2.1
  refine Text.isOverlong_of_lt (k := 20) (by decide) ?_
  simp only [Width.fits, Bool.and_eq_true, decide_eq_true_eq] at hfits
  simp only [Width.size, Nat.pow_eq] at hfits
  omega

/-- The text is that of a signed transaction with this nonce. -/
def Carries (text : String) (m : Int) : Prop :=
  ∃ x : SignedTransaction, x.toBase64 = .ok text ∧ x.transaction.nonce = .whole m

/-- One text carries one nonce. -/
lemma Carries.unique {text : String} {m m' : Int} (h : Carries text m) (h' : Carries text m') :
    m = m' := by
  obtain ⟨x, hx, hm⟩ := h
  obtain ⟨y, hy, hm'⟩ := h'
  obtain rfl := SignedTransaction.toBase64_injective hx hy
  simpa using hm.symm.trans hm'

/-! ### Answers -/

/-- Answers along which a send renews its transaction. -/
structure Answers (url : String) where
  key : Reply
  nonce : Int
  block : Reply
  origin : Digest
  /-- Failures that leave it open whether the first transaction has arrived. -/
  lost : List Reply
  rejection : Reply
  ledgers : Int
  outcome : Reply
  key_nonce : ∃ w, key.Yields url View.AccessKey.shape w ∧ w.nonce = nonce
  block_origin : ∃ w, block.Yields url View.Block.shape w ∧ w.header.digest = .ok origin
  lost_unsettled : ∀ r ∈ lost, r.NamesLedger ∧ r.Unsettled url
  rejection_ledgers : rejection.NamesLedger ∧ rejection.ledgers? url = some ledgers
  outcome_ok : ∃ o, outcome.Yields url View.Outcome.shape o ∧ Draft.conclude o = .ok o

namespace Answers

variable {d : Draft} {n : Node Float} {h : Holder} {k : KeyPair} {l : String} (A : Answers n.url)

/-- The nonce behind the rejection. -/
def renewed {url : String} (A : Answers url) : Int :=
  if A.nonce + 2 < A.ledgers + 1 then A.ledgers + 1 else max (A.nonce + 2) 0

lemma lt_renewed {url : String} (A : Answers url) : A.nonce + 1 < A.renewed := by
  unfold renewed
  split <;> omega

lemma ledgerNonce_comes (hn : 0 < n.policy.attempts) (s : Shared) :
    ∃ t, (Draft.ledgerNonce n h k).Comes s [] t (.ok A.nonce) ∧ t.nonces = s.nonces := by
  obtain ⟨w, hw, hnonce⟩ := A.key_nonce
  obtain ⟨t, hview, ht⟩ : ∃ t, (n.viewAccessKey h.signer.account k.publicKey.text
      (.finality .optimistic)).Comes s [] t (.ok w) ∧ t.nonces = s.nonces :=
    Node.read_call_comes rfl (submits_none (by decide) _) hn hw s
  rw [← hnonce]
  exact ⟨t, hview.bind (.ofExcept _ rfl), ht⟩

/-- A claim on a line that is not known. -/
lemma claim_comes (hn : 0 < n.policy.attempts) (hs : s.nonces.next? (h.line k) = none) :
    ∃ t, (NonceCache.claim (h.line k) (Draft.ledgerNonce n h k)).Comes s [] t
        (.ok (A.nonce + 1)) ∧
      t.nonces.next? (h.line k) = some (A.nonce + 2) := by
  have htake : s.withNonces (·.take (h.line k)) = (none, s) := by
    simp only [Shared.withNonces, NonceCache.take, hs]
  obtain ⟨t, hfetch, ht⟩ := A.ledgerNonce_comes (h := h) (k := k) hn s
  have hissue : t.nonces.settle (h.line k) A.nonce = t.nonces.issue (h.line k) (A.nonce + 1) := by
    rw [NonceCache.settle, ht, hs]
  have hsettle : t.withNonces (·.settle (h.line k) A.nonce) =
      (A.nonce + 1, (t.withNonces (·.settle (h.line k) A.nonce)).2) := by
    simp only [Shared.withNonces, hissue, NonceCache.issue]
  refine ⟨_, (Act.Comes.changeWith htake).bind (hfetch.bind (.changeWith hsettle)), ?_⟩
  simp only [Shared.withNonces, hissue, NonceCache.next?_issue_self]
  congr 1
  omega

/-- A rejection behind the first nonce. -/
lemma afterRejection_comes {v : Value} (hv : v.whole? = some A.ledgers)
    (hs : s.nonces.next? l = some (A.nonce + 2)) (hshort : Text.isOverlong A.renewed = false) :
    ∃ t, (Draft.afterRejection l v : Act Shared δ _).Comes s [] t (.ok (some A.renewed)) ∧
      t.nonces.next? l = some (A.renewed + 1) := by
  have hrec : s.nonces.run (.reconcile l A.ledgers) =
      (some A.renewed, (s.nonces.issue l A.renewed).2) := by
    rw [renewed] at hshort ⊢
    simp only [NonceCache.run, NonceCache.reconcile, NonceCache.take, hs, Option.all_some]
    split at hshort <;> rename_i hlt <;> simp [hlt, hshort, NonceCache.issue]
  refine ⟨Shared.perform (.reconcile l A.ledgers) s, ?_, ?_⟩
  · rw [Act.Comes, Draft.afterRejection_run hv]
    refine ⟨[.change (Shared.perform (.reconcile l A.ledgers)) s], .change ?_, rfl,
      by simp [Move.Meets]⟩
    rw [NonceCache.Step.renewal, hrec]
    exact .nil _ _
  · rw [← s.nonces.next?_issue_self l A.renewed]
    exact congrArg (·.2.next? l) hrec

/-- A rejection that has no successor leaves the nonces as they are. -/
lemma afterRejection_stumbles {v : Value} (hv : v.whole? = some A.ledgers)
    (hs : s.nonces.next? l = some (A.nonce + 2)) (hlt : A.nonce + 2 < A.ledgers + 1)
    (hlong : Text.isOverlong (A.ledgers + 1) = true) :
    (Draft.afterRejection l v : Act Shared δ _).Comes s [] s (.error .unwritten) := by
  have hrec : s.nonces.run (.reconcile l A.ledgers) = (none, s.nonces) := by
    simp only [NonceCache.run, NonceCache.reconcile, hs, Option.all_some, decide_eq_true hlt,
      hlong, if_true]
  have hstays : Shared.perform (.reconcile l A.ledgers) s = s := by
    simp only [Shared.perform, Shared.withNonces, hrec]
  rw [Act.Comes, Draft.afterRejection_run hv]
  refine ⟨[.change (Shared.perform (.reconcile l A.ledgers)) s], .change ?_, rfl,
    by simp [Move.Meets]⟩
  rw [NonceCache.Step.renewal, hrec, hstays]
  exact .nil _ _

lemma signFor_comes (hn : 0 < n.policy.attempts) {m : Int} (hx : d.Signs h k m A.origin)
    (s : Shared) :
    ∃ x text t, x.toBase64 = .ok text ∧ Carries text m ∧
      (d.signFor n h k m).Comes s [] t (.ok x) ∧ t.nonces = s.nonces := by
  obtain ⟨w, hw, ho⟩ := A.block_origin
  obtain ⟨x, hx⟩ := hx
  obtain ⟨hxt, text, htext⟩ := Transaction.sign_ok hx
  obtain ⟨t, hblock, ht⟩ : ∃ t, (n.block (.finality .final)).Comes s [] t (.ok w) ∧
      t.nonces = s.nonces := Node.read_call_comes rfl (submits_none (by decide) _) hn hw s
  refine ⟨x, text, t, htext, ⟨x, htext, by rw [hxt]; rfl⟩, ?_, ht⟩
  exact hblock.bind ((Act.Comes.ofExcept _ ho).bind (.ofExcept _ hx))

/-- A transaction that is accepted at once. -/
lemma post_accepted (hn : 0 < n.policy.attempts) {m : Int} (hx : d.Signs h k m A.origin)
    (s : Shared) :
    ∃ text t o, Carries text m ∧ t.nonces = s.nonces ∧
      ∀ f, (d.post n h k m f).Comes s [(text, A.outcome)] t (.ok o) := by
  obtain ⟨o, hyields, ho⟩ := A.outcome_ok
  obtain ⟨x, text, t, htext, hm, hsign, ht⟩ := A.signFor_comes hn hx s
  obtain ⟨u, hsub, hu⟩ : ∃ u, (n.submit x d.level).Comes t [(text, A.outcome)] u (.ok o) ∧
      u.nonces = t.nonces := by
    rw [Node.submit, htext]
    exact Node.read_call_comes rfl (submits_posting text d.level) hn hyields t
  exact ⟨text, u, o, hm, hu.trans ht, fun f => hsign.bind (hsub.andThen (.ofExcept _ ho))⟩

/-- A transaction that is rejected, behind failures that leave it open. -/
lemma post_rejected (hn : A.lost.length < n.policy.attempts)
    (hd : ∀ j, j < A.lost.length → ∃ w, n.policy.delay j = .ok w) {m : Int}
    (hx : d.Signs h k m A.origin) (s : Shared) :
    ∃ text t e v, Carries text m ∧ t.nonces = s.nonces ∧ e.rejection? = some v ∧
      v.whole? = some A.ledgers ∧ ∀ f ps u r, (f e).Comes t ps u r →
        (d.post n h k m f).Comes s ((A.lost ++ [A.rejection]).map (text, ·) ++ ps) u r := by
  obtain ⟨x, text, t, htext, hm, hsign, ht⟩ := A.signFor_comes (by omega) hx s
  obtain ⟨hN, ha⟩ := A.rejection_ledgers
  obtain ⟨e, v, he, hv, ha⟩ := Reply.ledgers?_eq_some ha
  obtain ⟨u, hsub, hu⟩ : ∃ u, (n.submit x d.level).Comes t
      ((A.lost ++ [A.rejection]).map (text, ·)) u (.error e) ∧ u.nonces = t.nonces := by
    have hfinal : ∀ e', (.error e : Except Error Value) = .error e' → e'.shouldResend = false := by
      rintro _ ⟨⟩
      exact Error.shouldResend_of_rejection hv
    obtain ⟨u, hcall, hu⟩ := Node.call_comes rfl (submits_posting text d.level) A.lost_unsettled
      hn hd hN he hfinal t
    rw [Node.submit, htext]
    exact ⟨u, hcall.bind_error, hu⟩
  exact ⟨text, u, e, v, hm, hu.trans ht, hv, ha, fun f ps v r hf =>
    hsign.bind (hsub.andThen hf)⟩

end Answers

namespace Draft

variable {d : Draft} {n : Node Float} {h : Holder} {k : KeyPair}

lemma claim_comes (hk : h.signer.key (s.turn h.seat) = k) :
    (h.claim : Act Shared Float KeyPair).Comes s [] (s.nextTurn h.seat) (.ok k) :=
  ⟨[.change (·.nextTurn h.seat) s], hk ▸ .change (.nil _ _), rfl, by simp [Move.Meets]⟩

/-- A draft that can be sent and signed, with a key whose nonces are not known: whatever failures
leave its first transaction open, as long as the policy allows for another attempt behind them, a
rejection settles it, and the send goes on from there. -/
lemma send_rejected (A : Answers n.url) (s : Shared) (hr : d.ready = .ok h)
    (hk : h.signer.key (s.turn h.seat) = k) (hn : A.lost.length < n.policy.attempts)
    (hd : ∀ j, j < A.lost.length → ∃ w, n.policy.delay j = .ok w)
    (hs : s.nonces.next? (h.line k) = none) (hx : d.Signs h k (A.nonce + 1) A.origin) :
    ∃ text t v, Carries text (A.nonce + 1) ∧ t.nonces.next? (h.line k) = some (A.nonce + 2) ∧
      v.whole? = some A.ledgers ∧ ∀ ps u r,
        (do d.attempts n h k 1 (← afterRejection (h.line k) v)).Comes t ps u r →
        (d.send n).Comes s ((A.lost ++ [A.rejection]).map (text, ·) ++ ps) u r := by
  have hn₀ : 0 < n.policy.attempts := by omega
  have hs' : (s.nextTurn h.seat).nonces.next? (h.line k) = none := hs
  obtain ⟨s₁, hclaim, hs₁⟩ := A.claim_comes hn₀ hs'
  obtain ⟨text, t, e, v, hm, ht, hv, ha, hfirst⟩ := A.post_rejected hn hd hx s₁
  refine ⟨text, t, v, hm, ht ▸ hs₁, ha, fun ps u r hrest => ?_⟩
  have hall : (d.attempts n h k spareAttempts none).Comes (s.nextTurn h.seat)
      ((A.lost ++ [A.rejection]).map (text, ·) ++ ps) u r := by
    rw [spareAttempts, attempts]
    refine hclaim.bind (hfirst _ _ _ _ ?_)
    rwa [hv]
  exact (Act.Comes.ofExcept s hr).bind ((claim_comes hk).bind hall)

/-- **Renewal.** Behind the rejection of its first transaction a send goes on with another one, if
the draft can be signed for the nonce that follows. -/
theorem send_renewed (A : Answers n.url) (s : Shared) (hr : d.ready = .ok h)
    (hk : h.signer.key (s.turn h.seat) = k) (hn : A.lost.length < n.policy.attempts)
    (hd : ∀ j, j < A.lost.length → ∃ w, n.policy.delay j = .ok w)
    (hs : s.nonces.next? (h.line k) = none) (hx : d.Signs h k (A.nonce + 1) A.origin)
    (hy : d.Signs h k A.renewed A.origin) :
    ∃ text text' u o, Carries text (A.nonce + 1) ∧ Carries text' A.renewed ∧
      u.nonces.next? (h.line k) = some (A.renewed + 1) ∧
      (d.send n).Comes s ((A.lost ++ [A.rejection]).map (text, ·) ++ [(text', A.outcome)]) u
        (.ok o) := by
  obtain ⟨text, s₁, v, hm, hs₁, hv, hsend⟩ := send_rejected A s hr hk hn hd hs hx
  obtain ⟨s₂, hafter, hs₂⟩ := A.afterRejection_comes (δ := Float) hv hs₁ hy.short
  obtain ⟨text', u, o, hm', hu, hpost⟩ := A.post_accepted (by omega) hy s₂
  have hsecond : (d.attempts n h k 1 (some A.renewed)).Comes s₂ [(text', A.outcome)] u
      (.ok o) := by
    rw [attempts]
    exact (Act.Comes.ofExcept s₂ rfl).bind (hpost _)
  exact ⟨text, text', u, o, hm, hm', by rw [hu, hs₂], hsend _ _ _ (hafter.bind hsecond)⟩

/-- **Stumbling.** Where the nonce behind the ledger's has too many digits to be put on record, the
send ends with that instead, and the nonces stay as they are. -/
theorem send_stumbles (A : Answers n.url) (s : Shared) (hr : d.ready = .ok h)
    (hk : h.signer.key (s.turn h.seat) = k) (hn : A.lost.length < n.policy.attempts)
    (hd : ∀ j, j < A.lost.length → ∃ w, n.policy.delay j = .ok w)
    (hs : s.nonces.next? (h.line k) = none) (hx : d.Signs h k (A.nonce + 1) A.origin)
    (hlt : A.nonce + 2 < A.ledgers + 1) (hlong : Text.isOverlong (A.ledgers + 1) = true) :
    ∃ text u, Carries text (A.nonce + 1) ∧ u.nonces.next? (h.line k) = some (A.nonce + 2) ∧
      (d.send n).Comes s ((A.lost ++ [A.rejection]).map (text, ·)) u (.error .unwritten) := by
  obtain ⟨text, t, v, hm, ht, hv, hsend⟩ := send_rejected A s hr hk hn hd hs hx
  have hafter := A.afterRejection_stumbles (δ := Float) hv ht hlt hlong
  have hall := hsend _ _ _ hafter.bind_error
  exact ⟨text, t, hm, ht, by rwa [List.append_nil] at hall⟩

/-- A send with a key whose nonces are known can be accepted at once. -/
lemma send_accepted (A : Answers n.url) (s : Shared) {m : Int} (hr : d.ready = .ok h)
    (hk : h.signer.key (s.turn h.seat) = k) (hn : 0 < n.policy.attempts) (hm : 0 ≤ m)
    (hs : s.nonces.next? (h.line k) = some m) (hx : d.Signs h k m A.origin) :
    ∃ text u o, Carries text m ∧ (d.send n).Comes s [(text, A.outcome)] u (.ok o) := by
  have hs' : (s.nextTurn h.seat).nonces.next? (h.line k) = some m := hs
  have htake : (s.nextTurn h.seat).withNonces (·.take (h.line k)) =
      (some m, ((s.nextTurn h.seat).withNonces (·.take (h.line k))).2) := by
    simp only [Shared.withNonces, NonceCache.take, hs', Int.max_eq_left hm, NonceCache.issue]
  have hclaim : (NonceCache.claim (h.line k) (ledgerNonce n h k)).Comes (s.nextTurn h.seat) [] _
      (.ok m) := (Act.Comes.changeWith htake).bind (.ofExcept _ rfl)
  obtain ⟨text, u, o, htext, _, hpost⟩ := A.post_accepted hn hx
    ((s.nextTurn h.seat).withNonces (·.take (h.line k))).2
  refine ⟨text, u, o, htext, (Act.Comes.ofExcept s hr).bind ((claim_comes hk).bind ?_)⟩
  rw [spareAttempts, attempts]
  exact hclaim.bind (hpost _)

end Draft

/-! ### Two sends of one draft -/

namespace Gifts

def secret : SecretKey := ⟨List.replicate 32 7, by decide⟩

def alice : Holder := ⟨Signer.ofKey ⟨"alice.test", by decide +kernel⟩ secret .memory, 0⟩

/-- Three units for someone else. -/
def gift : Draft :=
  ⟨⟨"bob.test", by decide +kernel⟩, some alice, none, .executedOptimistic,
    [.direct (.transfer ⟨3, by decide⟩)]⟩

def testNode : Node Float := ⟨"http://localhost:3030", .standard, .null, [], 0⟩

/-- One line, one signer and no nonces. -/
def start : Shared := Shared.empty.addLine.2.addSigner.2

/-- The text of a digest of zeros. -/
def originText : String := "11111111111111111111111111111111"

lemma length_zeros : (List.replicate 32 (0 : UInt8)).length = 32 := rfl

def origin : Digest := ⟨List.replicate 32 0, length_zeros⟩

def keyReply : Reply :=
  .answer 200 "\x7b\"result\":\x7b\"nonce\":41,\"permission\":\"FullAccess\"\x7d\x7d"

def blockReply : Reply :=
  .answer 200 ("\x7b\"result\":\x7b\"header\":\x7b\"height\":1,\"hash\":\"" ++ originText
    ++ "\"\x7d\x7d\x7d")

/-- The nonce 42 is rejected, and the ledger's is about to be named. -/
def rejectionFront : String :=
  "\x7b\"error\":\x7b\"cause\":\x7b\"name\":\"INVALID_TRANSACTION\"\x7d,"
    ++ "\"data\":\x7b\"InvalidTxError\":\x7b\"InvalidNonce\":"
    ++ "\x7b\"tx_nonce\":42,\"ak_nonce\":"

/-- The rejection of the nonce 42 with the ledger's. -/
def rejection (ledgers : String) : Reply :=
  .answer 200 (rejectionFront ++ ledgers ++ "\x7d\x7d\x7d\x7d\x7d")

/-- The ledger has got to 42 itself. -/
def rejectionReply : Reply := rejection "42"

def outcomeReply : Reply := .answer 200 "\x7b\"result\":\x7b\x7d\x7d"

lemma names_answer (status : Int) (body : String) : (Reply.answer status body).NamesLedger :=
  Reply.namesLedger fun _ h => by cases h

lemma timedOut_unsettled (url : String) :
    Reply.timedOut.NamesLedger ∧ Reply.timedOut.Unsettled url :=
  ⟨Reply.namesLedger fun _ h => (by cases h), _, rfl, rfl⟩

lemma origin_parse : Digest.parse originText = .ok origin := by
  have h : (Digest.parse originText).toOption = some origin := by decide +kernel
  cases ho : Digest.parse originText with
  | ok o =>
    rw [ho] at h
    exact congrArg _ (Option.some.inj h)
  | error e =>
    rw [ho] at h
    cases h

set_option maxRecDepth 2000 in
lemma block_yields (url : String) : ∃ w, blockReply.Yields url View.Block.shape w ∧
    w.header.digest = .ok origin := by
  refine ⟨_, ⟨names_answer _ _, _, rfl, rfl⟩, ?_⟩
  exact origin_parse

set_option maxRecDepth 2000 in
lemma rejection_ledgers (url : String) : rejectionReply.ledgers? url = some 42 := rfl

def giftAnswers (lost : List Reply)
    (h : ∀ r ∈ lost, r.NamesLedger ∧ r.Unsettled testNode.url) : Answers testNode.url where
  key := keyReply
  nonce := 41
  block := blockReply
  origin := origin
  lost := lost
  rejection := rejectionReply
  ledgers := 42
  outcome := outcomeReply
  key_nonce := ⟨_, ⟨names_answer _ _, _, rfl, rfl⟩, rfl⟩
  block_origin := block_yields _
  lost_unsettled := h
  rejection_ledgers := ⟨names_answer _ _, rejection_ledgers _⟩
  outcome_ok := ⟨_, ⟨names_answer _ _, _, rfl, rfl⟩, rfl⟩

lemma alice_key (turn : Nat) : alice.signer.key turn = .ofSecret secret := by
  have h : turn % 1 = 0 := Nat.mod_one turn
  simp [Signer.key, alice, Signer.ofKey]

open Encoding in
lemma gift_signs {m : Int} (hm : m = 42 ∨ m = 43 ∨ m = 44) (o : Digest) :
    gift.Signs alice (.ofSecret secret) m o := by
  obtain ⟨_, hsigner⟩ : ∃ bs, alice.signer.account.encoding.toBytes = .ok bs := ⟨_, rfl⟩
  obtain ⟨_, hkey⟩ : ∃ bs, (KeyPair.ofSecret secret).publicKey.encoding.toBytes = .ok bs :=
    ⟨_, toBytes_append rfl (toBytes_ofBytes _)⟩
  obtain ⟨_, hnonce⟩ : ∃ bs, (Counter.whole m).encoding.toBytes = .ok bs := by
    rcases hm with rfl | rfl | rfl <;> exact ⟨_, rfl⟩
  obtain ⟨_, hreceiver⟩ : ∃ bs, gift.receiver.encoding.toBytes = .ok bs := ⟨_, rfl⟩
  obtain ⟨_, hactions⟩ : ∃ bs, (sequence Action.encoding gift.actions).toBytes = .ok bs :=
    ⟨_, rfl⟩
  have hfront := toBytes_append (toBytes_append hsigner hkey) hnonce
  exact Transaction.sign_of_toBytes (toBytes_append (toBytes_append
    (toBytes_append hfront hreceiver) (toBytes_ofBytes o.bytes)) hactions)

lemma standard_delay {j : Nat} (hj : j < 3) : ∃ w, RetryPolicy.standard.delay j = .ok w :=
  match j, hj with
  | 0, _ | 1, _ | 2, _ => ⟨_, rfl⟩

/-- Two sends in turn: the first one is rejected and renewed, and the second one goes on from
there. -/
theorem run (lost : List Reply) (hlen : lost.length ≤ 3)
    (hlost : ∀ r ∈ lost, r.NamesLedger ∧ r.Unsettled testNode.url) :
    ∃ text text' text'' ms c, Carries text 42 ∧ Carries text' 43 ∧ Carries text'' 44 ∧
      Company.Run ⟨start, fun _ : Bool => (gift.send testNode).run⟩ ms c ∧
      submissions (own true ms) =
        (lost ++ [rejectionReply]).map (text, ·) ++ [(text', outcomeReply)] ∧
      submissions (own false ms) = [(text'', outcomeReply)] ∧
      ∀ p ∈ ms, p.2.Meets Reply.NamesLedger := by
  have hn : (lost.length : Int) < testNode.policy.attempts := by
    have : testNode.policy.attempts = 4 := rfl
    omega
  obtain ⟨text, text', u, _, hx, hy, hu, h⟩ := gift.send_renewed (giftAnswers lost hlost) start rfl
    (alice_key _) hn (fun j hj => standard_delay (Nat.lt_of_lt_of_le hj hlen)) rfl
    (gift_signs (.inl rfl) _) (gift_signs (.inr (.inl rfl)) _)
  obtain ⟨text'', v, _, hz, h'⟩ := gift.send_accepted (giftAnswers lost hlost) u (m := 44) rfl
    (alice_key _) (by decide) (by decide) hu (gift_signs (.inr (.inr rfl)) _)
  obtain ⟨ms, hrun, hown, hother, hs⟩ :=
    h.run (p := fun _ : Bool => (gift.send testNode).run) (i := true) rfl
  obtain ⟨ns, hrun', hown', hother', hs'⟩ := h'.run (p := Function.update
    (fun _ : Bool => (gift.send testNode).run) true _) (i := false) rfl
  refine ⟨text, text', text'', ms ++ ns, _, hx, hy, hz, hrun.append hrun', ?_, ?_, ?_⟩
  · rw [own_append, hother' true (by decide), List.append_nil, hown]
    rfl
  · rw [own_append, hother false (by decide), List.nil_append, hown']
    rfl
  · exact List.forall_mem_append.2 ⟨hs, hs'⟩

end Gifts

end LedgerClient
