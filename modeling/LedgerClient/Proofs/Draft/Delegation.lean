import LedgerClient.Draft.Delegate
import LedgerClient.Proofs.Action.Range
import LedgerClient.Proofs.Draft.Carried
import LedgerClient.Proofs.Node.Latest
import LedgerClient.Proofs.Wire.Length

/-!
What a delegation carries, to the one who relays it and from there to the ledger: the draft as it
was written, under one key, for the nonce and the last block that were given or asked for, and
signed by that key over the tagged digest.
-/

namespace LedgerClient

open Dialogue Encoding

/-! ### Binary forms -/

lemma PublicKey.writable (k : PublicKey) : k.encoding.Writable := by
  refine writable_append.2 ⟨?_, _, rfl⟩
  cases k.curve <;> exact ⟨_, rfl⟩

lemma Counter.writable {c : Counter} (h : c.InRange) : c.encoding.Writable := by
  cases c with
  | whole n =>
    simp only [InRange, Width.fits, Bool.and_eq_true, decide_eq_true_eq] at h
    exact writable_int.2 h
  | other s => cases h

namespace Delegate

lemma directOnly_map (as : List DirectAction) : directOnly? (as.map .direct) = some as := by
  induction as with
  | nil => rfl
  | cons a as ih => simp [directOnly?, ih]

/-- Actions of which none is delegated are direct ones. -/
lemma exists_direct {as : List Action} (h : ∀ a ∈ as, a.isDelegated = false) :
    ∃ bs : List DirectAction, as = bs.map .direct := by
  induction as with
  | nil => exact ⟨[], rfl⟩
  | cons a as ih =>
    obtain ⟨ha, has⟩ := List.forall_mem_cons.1 h
    obtain ⟨bs, rfl⟩ := ih has
    cases a with
    | direct a => exact ⟨a :: bs, rfl⟩
    | delegated s => cases ha

variable {d : Delegate} {k : SecretKey} {s : SignedDelegate}

/-- What is signed is the digest of the binary form behind its tag. -/
lemma sign_eq (h : d.sign k = .ok s) :
    ∃ bs, d.preimage = .ok bs ∧ s = ⟨d, k.sign (Digest.of bs).bytes⟩ := by
  rw [sign, digest] at h
  cases hb : d.preimage with
  | error e =>
    rw [hb] at h
    cases h
  | ok bs =>
    rw [hb] at h
    exact ⟨bs, rfl, (Except.ok.inj h).symm⟩

lemma sign_of_writable (h : d.encoding.Writable) (k : SecretKey) : ∃ s, d.sign k = .ok s := by
  have htag : (int .u32 signingTag).Writable := ⟨_, rfl⟩
  obtain ⟨bs, hbs⟩ : ∃ bs, d.preimage = .ok bs := writable_append.2 ⟨htag, h⟩
  rw [sign, digest, hbs]
  exact ⟨_, rfl⟩

lemma writable_of_preimage {bs : Bytes} (h : d.preimage = .ok bs) : d.encoding.Writable :=
  (writable_append.1 ⟨bs, h⟩).2

end Delegate

/-! ### Relaying -/

/-- Whoever relays the delegation reads it from the text as it was signed, and so does whoever reads
a transaction that carries it, signed or not. And there is such a transaction for every nonce. -/
structure SignedDelegate.Relayable (s : SignedDelegate) (text : String) : Prop where
  payload : s.toBase64 = .ok text ∧ SignedDelegate.ofBase64 text = .ok s
  carried : ∀ (t : Transaction) (i : Nat) (bs : Bytes), t.actions[i]? = some (.delegated s) →
    t.toBytes = .ok bs → ∃ u, Transaction.ofBytes bs = .ok u ∧ u.actions[i]? = some (.delegated s)
  posted : ∀ (t : SignedTransaction) (i : Nat) (text : String),
    t.transaction.actions[i]? = some (.delegated s) → t.toBase64 = .ok text →
    ∃ u, SignedTransaction.ofBase64 text = .ok u ∧ u.transaction.actions[i]? = some (.delegated s)
  wrapped : ∀ t : Transaction, t.actions = [.delegated s] → t.nonce.InRange → t.encoding.Writable

/-- What is written of a delegation to be relayed is read as what it is. -/
lemma SignedDelegate.relayable {s : SignedDelegate} {text : String} (h : s.toBase64 = .ok text) :
    s.Relayable text := by
  obtain ⟨bs, hbs, rfl⟩ : ∃ bs, s.encoding.toBytes = .ok bs ∧ Base64.encode bs = text :=
    of_map_ok h
  refine ⟨⟨h, ?_⟩, fun t i bs hi ht => ?_, fun t i text hi ht => ?_, fun t ha hn => ?_⟩
  · rw [ofBase64, Base64.bytes_encode]
    exact (SignedDelegate.inverts s bs hbs).whole
  · exact ⟨t, (Transaction.inverts t bs ht).whole, hi⟩
  · exact ⟨t, SignedTransaction.ofBase64_of_toBase64 ht, hi⟩
  · have hactions : (sequence Action.encoding t.actions).Writable := by
      rw [ha, writable_sequence]
      refine ⟨show 1 < Nat.pow 256 4 by decide, List.forall_mem_singleton.2 ?_⟩
      exact writable_append.2 ⟨⟨_, rfl⟩, bs, hbs⟩
    simp only [Transaction.encoding, writable_append]
    exact ⟨⟨⟨⟨⟨t.signer.writable, t.publicKey.writable⟩, Counter.writable hn⟩,
      t.receiver.writable⟩, _, rfl⟩, hactions⟩

lemma SignedDelegate.exists_toBase64 {s : SignedDelegate} (h : s.delegate.encoding.Writable) :
    ∃ text, s.toBase64 = .ok text := by
  obtain ⟨bs, hbs⟩ : s.encoding.Writable := writable_append.2 ⟨h, s.signature.toBytes_encoding⟩
  exact ⟨Base64.encode bs, by rw [toBase64, toBytes, hbs]; rfl⟩

/-- The delegation is the draft as it was written, signed with the key for this nonce and this last
block, and can be relayed by the text. -/
structure Draft.Delegated (d : Draft) (h : Holder) (k : KeyPair) (nonce last : Counter)
    (s : SignedDelegate) (text : String) : Prop where
  sender : s.delegate.sender = h.signer.account
  receiver : s.delegate.receiver = d.receiver
  actions : s.delegate.actions.map .direct = d.actions
  nonce : s.delegate.nonce = nonce
  last : s.delegate.maxBlockHeight = last
  publicKey : s.delegate.publicKey = k.publicKey
  signature : ∃ bs, s.delegate.preimage = .ok bs ∧
    s.signature = k.secret.sign (Sha256.digest bs)
  verifies : k.secret.VerifiesOwn → s.verify = .ok true
  relayable : s.Relayable text

namespace Draft

variable {d : Draft} {h : Holder} {k : KeyPair} {nonce last : Counter} {as : List DirectAction}
  {s : SignedDelegate} {text : String}

/-- The delegation that is signed in the end. -/
def delegation (d : Draft) (h : Holder) (k : KeyPair) (as : List DirectAction)
    (nonce last : Counter) : Delegate :=
  ⟨h.signer.account, d.receiver, as, nonce, last, k.publicKey⟩

lemma delegated_of_sign (ha : d.actions = as.map .direct)
    (hs : (d.delegation h k as nonce last).sign k.secret = .ok s) (ht : s.toBase64 = .ok text) :
    d.Delegated h k nonce last s text := by
  have hrelay := SignedDelegate.relayable ht
  obtain ⟨bs, hbs, rfl⟩ := Delegate.sign_eq hs
  refine ⟨rfl, rfl, ha.symm, rfl, rfl, rfl, ⟨bs, hbs, rfl⟩, fun hv => ?_, hrelay⟩
  rw [SignedDelegate.verify, Delegate.digest, hbs]
  change k.publicKey.verify (Digest.of bs).bytes _ = _
  rw [k.publicKey_eq]
  exact hv _

lemma delegation_writable (ha : d.actions = as.map .direct)
    (hd : (sequence Action.encoding d.actions).Writable) (hn : nonce.InRange)
    (hl : last.InRange) : (d.delegation h k as nonce last).encoding.Writable := by
  rw [ha, writable_sequence, List.length_map, List.forall_mem_map] at hd
  simp only [delegation, Delegate.encoding, writable_append]
  exact ⟨⟨⟨⟨⟨h.signer.account.writable, d.receiver.writable⟩, writable_sequence.2 hd⟩,
    Counter.writable hn⟩, Counter.writable hl⟩, k.publicKey.writable⟩

end Draft

/-! ### Runs -/

/-- Asks for the ledger's view of the key, or for the status of the node. -/
def Request.LooksUp (h : Holder) (k : KeyPair) (q : Request) : Prop :=
  (q.method = "query" ∧ q.params = .object ([("request_type", .text "view_access_key"),
    ("account_id", .text h.signer.account.text), ("public_key", .text k.publicKey.text)] ++
    (BlockRef.finality .optimistic).params)) ∨ q.method = "status"

/-- Leaves the nonces alone, claims no key, and only looks things up. -/
structure Move.Aside {δ : Type} (h : Holder) (k : KeyPair) (m : Move Shared δ) : Prop where
  quiet : m.Quiet
  keepsTurns : m.KeepsTurns
  looksUp : ∀ q r, m = .exchange q r → q.LooksUp h k

namespace DelegateOptions

variable (o : DelegateOptions) (url : String) {g g' : Latest}

/-- The nonce to sign for: the given one, or the one after the ledger's. -/
def nonce? (g : Latest) : Option Counter :=
  match o.nonce with
  | some c => some c
  | none => ((g "query").bind (·.view? View.AccessKey.shape url)).map fun v => .whole (v.nonce + 1)

/-- The last block to sign for: the given one, or so many behind the latest. -/
def last? (g : Latest) : Option Counter :=
  match o.expiry with
  | .height b => some b
  | .after blocks => ((g "status").bind (·.view? View.Status.shape url)).map fun v =>
    .whole (v.sync.latestBlockHeight + blocks)

end DelegateOptions

namespace Draft

variable {δ : Type} {n : Node δ} {g : Latest} {h : Holder} {k : KeyPair}

lemma admits_aside {method : String} {params : Value} (hm : method ≠ "send_tx")
    (hq : ∀ q : Request, q.method = method → q.params = params → q.LooksUp h k) :
    Node.Admits (Move.Aside h k) n method params where
  dial s := ⟨s.dial_nonces _ _, fun t => t.dial_turns _ _, nofun⟩
  exchange q r hqm hqp := by
    refine ⟨fun h => hm (hqm.symm.trans h), trivial, ?_⟩
    rintro _ _ ⟨⟩
    exact hq q hqm hqp
  pause _ := ⟨trivial, trivial, nofun⟩

/-- The moves of a delegation, and the replies that it has got. -/
abbrev aside (h : Holder) (k : KeyPair) : Discipline Shared δ Latest :=
  Latest.discipline (fun _ => True) (Move.Aside h k)

variable [Span δ]

lemma delegateNonce_latest (o : DelegateOptions) (hg : g "query" = none) :
    (delegateNonce n h k o).run.Follows (aside h k)
      (fun g' w => g.Agrees "query" g' ∧ o.nonce? n.url g' = w.toOption) g := by
  unfold delegateNonce DelegateOptions.nonce?
  cases o.nonce with
  | some c => exact ⟨fun _ _ => rfl, rfl⟩
  | none =>
    have hview : (n.viewAccessKey h.signer.account k.publicKey.text
        (.finality .optimistic)).run.Follows (aside h k) (fun u w => g.Agrees "query" u ∧
          (u "query").bind (·.view? View.AccessKey.shape n.url) = w.toOption) g :=
      Node.read_call_latest (admits_aside (by decide) fun _ hq hp => .inl ⟨hq, hp⟩) _ hg
    have hnonce := Act.follows_latest (Act.follows_latest hview (·.nonce))
      fun m => Counter.whole (m + 1)
    simp only [Option.map_map] at hnonce
    exact hnonce

lemma lastBlock_latest (o : DelegateOptions) (hg : g "status" = none) :
    (lastBlock n o.expiry).run.Follows (aside h k)
      (fun g' w => g.Agrees "status" g' ∧ o.last? n.url g' = w.toOption) g := by
  unfold lastBlock DelegateOptions.last?
  cases o.expiry with
  | height b => exact ⟨fun _ _ => rfl, rfl⟩
  | after blocks =>
    have hstatus : n.status.run.Follows (aside h k) (fun u w => g.Agrees "status" u ∧
        (u "status").bind (·.view? View.Status.shape n.url) = w.toOption) g :=
      Node.read_call_latest (admits_aside (by decide) fun _ hq _ => .inr hq) _ hg
    exact Act.follows_latest hstatus _

variable {d : Draft} {as : List DirectAction} {o : DelegateOptions}

/-- What a delegation comes to with a key. -/
def Concludes (d : Draft) (h : Holder) (k : KeyPair) (as : List DirectAction)
    (o : DelegateOptions) (url : String) (g : Latest)
    (w : Except Error (SignedDelegate × String)) : Prop :=
  (∃ c b, o.nonce? url g = some c ∧ o.last? url g = some b ∧
    w = ((d.delegation h k as c b).sign k.secret).bind SignedDelegate.withPayload) ∨
  ((o.nonce? url g = none ∨ o.last? url g = none) ∧ ∃ e, w = .error e)

/-- Signing behind the claim of a key. -/
def signWith (d : Draft) (n : Node δ) (o : DelegateOptions) (h : Holder)
    (as : List DirectAction) (k : KeyPair) : Act Shared δ SignedDelegate := do
  let nonce ← delegateNonce n h k o
  let last ← lastBlock n o.expiry
  Act.ofExcept ((d.delegation h k as nonce last).sign k.secret)

/-- All that is behind the claim of a key. -/
def delegateWith (d : Draft) (n : Node δ) (o : DelegateOptions) (h : Holder)
    (as : List DirectAction) (k : KeyPair) : Act Shared δ (SignedDelegate × String) := do
  Act.ofExcept (← d.signWith n o h as k).withPayload

lemma delegate_run (ha : d.delegable = .ok as) (hh : d.signer? = some h) (n : Node δ)
    (o : DelegateOptions) :
    (d.delegate n o).run = .step (·.nextTurn h.seat) fun s =>
      (d.delegateWith n o h as (h.signer.key (s.turn h.seat))).run := by
  rw [delegate, signDelegate, ha, requireSigner, hh]
  rfl

lemma signWith_latest (n : Node δ) (o : DelegateOptions) (k : KeyPair) :
    (d.signWith n o h as k).run.Follows (aside h k) (fun g w =>
      (∃ c b, o.nonce? n.url g = some c ∧ o.last? n.url g = some b ∧
        w = (d.delegation h k as c b).sign k.secret) ∨
      ((o.nonce? n.url g = none ∨ o.last? n.url g = none) ∧ ∃ e, w = .error e)) .empty := by
  refine Act.follows_bind (delegateNonce_latest o rfl) (fun g c hc => ?_) fun g e he => ?_
  · have hg : g "status" = none := hc.1 "status" (by decide)
    refine Act.follows_bind (lastBlock_latest o hg) (fun g' b hb => ?_) fun g' e he => ?_
    · have hnonce : o.nonce? n.url g' = o.nonce? n.url g := by
        rw [DelegateOptions.nonce?, DelegateOptions.nonce?, hb.1 "query" (by decide)]
      exact .inl ⟨c, b, hnonce.trans hc.2, hb.2, rfl⟩
    · exact .inr ⟨.inr he.2, e, rfl⟩
  · exact .inr ⟨.inl he.2, e, rfl⟩

lemma delegateWith_latest (n : Node δ) (o : DelegateOptions) (k : KeyPair) :
    (d.delegateWith n o h as k).run.Follows (aside h k) (d.Concludes h k as o n.url) .empty := by
  refine Act.follows_bind (signWith_latest n o k) (fun g s hs => ?_) fun g e he => ?_
  · rcases hs with ⟨c, b, hn, hb, hs⟩ | ⟨-, e, he⟩
    · exact .inl ⟨c, b, hn, hb, by rw [← hs, Except.bind]⟩
    · cases he
  · rcases he with ⟨c, b, hn, hb, hs⟩ | ⟨hnone, -⟩
    · exact .inl ⟨c, b, hn, hb, by rw [← hs, Except.bind]⟩
    · exact .inr ⟨hnone, e, rfl⟩

/-- **What a delegation carries.** Every run of a draft with actions, none of them delegated, and
a signer, finished or not, with any replies and whatever others do meanwhile. It claims a key at the
start and none later, leaves the nonces alone and submits nothing; at most it asks for the key and
for the status of the node. What it returns is the draft as it was written, for the nonce and the
last block that were given or that the replies describe, and signed with that key; it is read back
from the text that is returned with it, and from whatever transaction carries it. And with such a
nonce and block, and actions that have a binary form, it does return it. -/
theorem delegate_carries (d : Draft) (node : Node δ) (o : DelegateOptions) (h : Holder)
    (ha : d.actions ≠ []) (hd : ∀ a ∈ d.actions, a.isDelegated = false)
    (hh : d.signer? = some h) (ms : List (Move Shared δ))
    (y : Dialogue Shared δ (Except Error (SignedDelegate × String)))
    (hr : (d.delegate node o).run.Runs ms y) :
    (ms = [] ∧ y.result? = none) ∨ ∃ s rest k, ms = .change (·.nextTurn h.seat) s :: rest ∧
      k = h.signer.key (s.turn h.seat) ∧ (∀ m ∈ ms, m.Quiet) ∧ (∀ m ∈ rest, m.Aside h k) ∧
      (∀ t text, y.result? = some (.ok (t, text)) → ∃ nonce last,
        o.nonce? node.url (latest rest) = some nonce ∧
        o.last? node.url (latest rest) = some last ∧ d.Delegated h k nonce last t text) ∧
      ∀ w nonce last, y.result? = some w → o.nonce? node.url (latest rest) = some nonce →
        o.last? node.url (latest rest) = some last → nonce.InRange → last.InRange →
        (sequence Action.encoding d.actions).Writable →
        ∃ t text, w = .ok (t, text) ∧ d.Delegated h k nonce last t text := by
  obtain ⟨as, has⟩ := Delegate.exists_direct hd
  have hdel : d.delegable = .ok as := by
    rw [delegable, has, Delegate.directOnly_map]
    cases as with
    | nil => exact absurd has ha
    | cons a as => rfl
  rw [delegate_run hdel hh] at hr
  rcases runs_step hr with ⟨rfl, rfl⟩ | ⟨s, rest, rfl, hy⟩
  · exact .inl ⟨rfl, rfl⟩
  refine .inr ⟨s, rest, _, rfl, rfl, ?_⟩
  obtain ⟨g, hl, hc⟩ := (delegateWith_latest node o _).runs hy fun m _ => by cases m <;> trivial
  obtain ⟨haside, rfl⟩ := Latest.leads hl
  have hend : ∀ w, y.result? = some w →
      d.Concludes h (h.signer.key (s.turn h.seat)) as o node.url (latest rest) w := by
    intro w hw
    cases y with
    | done a =>
      obtain rfl := Option.some.inj hw
      exact hc
    | step f k | ask q k | pause d k => cases hw
  refine ⟨List.forall_mem_cons.2 ⟨rfl, fun m hm => (haside m hm).quiet⟩, haside,
    fun t text ht => ?_, fun w c b hw hn hb hcn hbn hform => ?_⟩
  · rcases hend _ ht with ⟨c, b, hn, hb, hs⟩ | ⟨_, e, he⟩
    · obtain ⟨s', hs', hpair⟩ := of_bind_ok hs.symm
      obtain ⟨text', htext, heq⟩ := of_map_ok hpair
      obtain ⟨rfl, rfl⟩ := Prod.mk.inj heq
      exact ⟨c, b, hn, hb, delegated_of_sign has hs' htext⟩
    · cases he
  · rcases hend w hw with ⟨c', b', hn', hb', hs⟩ | ⟨hnone, -⟩
    · obtain rfl := Option.some.inj (hn.symm.trans hn')
      obtain rfl := Option.some.inj (hb.symm.trans hb')
      obtain ⟨t, ht⟩ := Delegate.sign_of_writable (delegation_writable has hform hcn hbn)
        (h.signer.key (s.turn h.seat)).secret
      obtain ⟨bs, hbs, htd⟩ := Delegate.sign_eq ht
      obtain ⟨text, htext⟩ : ∃ text, t.toBase64 = .ok text :=
        SignedDelegate.exists_toBase64 (htd ▸ Delegate.writable_of_preimage hbs)
      refine ⟨t, text, ?_, delegated_of_sign has ht htext⟩
      rw [hs, ht, Except.bind, SignedDelegate.withPayload, htext]
      rfl
    · rw [hn, hb] at hnone
      simp at hnone

end Draft

namespace Gifts

def statusReply : Reply :=
  .answer 200 ("\x7b\"result\":\x7b\"chain_id\":\"test\",\"sync_info\":\x7b\"syncing\":false,"
    ++ "\"latest_block_hash\":\"\",\"latest_block_height\":100\x7d\x7d\x7d")

end Gifts

set_option maxRecDepth 4000 in
open Gifts in
/-- A delegation for which the nonce and the latest block are asked of the node. -/
theorem gift_delegated : ∃ ms t text,
    (gift.delegate testNode .standard).run.Runs ms (.done (.ok (t, text))) ∧
    gift.actions ≠ [] ∧ (∀ a ∈ gift.actions, a.isDelegated = false) ∧
    gift.signer? = some alice ∧
    gift.Delegated alice (.ofSecret secret) (.whole 42) (.whole 300) t text := by
  obtain ⟨ms, w, hrun, hlatest⟩ : ∃ ms w, (gift.delegate testNode .standard).run.Runs
      (.change (·.nextTurn 0) start :: ms) (.done w) ∧ latest ms =
        Function.update (Function.update Latest.empty "query" (some keyReply)) "status"
          (some statusReply) :=
    ⟨[.change (·.dial 0 .null) start, .exchange _ keyReply,
      .change (·.dial 0 .null) start, .exchange _ statusReply], _,
      .cons (.change ..) (.cons (.change ..) (.cons (.exchange ..)
        (.cons (.change ..) (.cons (.exchange ..) (.nil _))))), rfl⟩
  have hactions : gift.actions ≠ [] := by decide
  have hdirect : ∀ a ∈ gift.actions, a.isDelegated = false := by decide
  have hform : (sequence Action.encoding gift.actions).Writable := ⟨_, rfl⟩
  rcases gift.delegate_carries testNode .standard alice hactions hdirect rfl _ _ hrun with
    ⟨hnil, -⟩ | ⟨s, rest, k, hms, rfl, -, -, -, hcarries⟩
  · cases hnil
  · obtain ⟨hs, rfl⟩ := List.cons.inj hms
    rw [hlatest] at hcarries
    obtain ⟨t, text, rfl, ht⟩ := hcarries w (.whole 42) (.whole 300) rfl rfl rfl rfl rfl hform
    rw [alice_key] at ht
    exact ⟨_, t, text, hrun, hactions, hdirect, rfl, ht⟩

/-- Code of four gibibytes has no binary form, so that nothing is signed. -/
lemma Delegate.sign_oversize {d : Delegate} {code : Bytes} (k : SecretKey)
    (hd : .deployContract code ∈ d.actions) (hcode : Nat.pow 256 4 ≤ code.length) :
    ∃ e, d.sign k = .error e := by
  cases hs : d.sign k with
  | error e => exact ⟨e, rfl⟩
  | ok s =>
    obtain ⟨bs, hbs, -⟩ := sign_eq hs
    have hw := writable_of_preimage hbs
    simp only [encoding, writable_append, writable_sequence] at hw
    obtain ⟨⟨⟨⟨-, -, hactions⟩, -⟩, -⟩, -⟩ := hw
    have hdeploy := hactions _ hd
    simp only [DirectAction.encoding, counted, writable_append, writable_int, Width.size] at hdeploy
    omega

lemma Draft.delegateWith_of_error {δ : Type} [Span δ] {d : Draft} {n : Node δ} {h : Holder}
    {as : List DirectAction} {k : KeyPair} {c b : Counter} {e : Error}
    (he : (d.delegation h k as c b).sign k.secret = .error e) :
    (d.delegateWith n ⟨some c, .height b⟩ h as k).run = .done (.error e) := by
  have hsign : (d.signWith n ⟨some c, .height b⟩ h as k).run = .done (.error e) :=
    congrArg Dialogue.done he
  rw [delegateWith, ExceptT.run_bind, hsign]
  rfl

open Gifts in
/-- A draft without actions is not delegated, and neither is one whose code is too long, whatever
the nonce and the last block. -/
theorem gift_undelegated :
    (∃ ms e, ({ gift with actions := [] }.delegate testNode
      ⟨some (.whole 1), .height (.whole 2)⟩).run.Runs ms (.done (.error e))) ∧
    ∃ ms e, ({ gift with actions := [.direct (.deployContract (List.replicate (Nat.pow 256 4) 0))] }
      |>.delegate testNode ⟨some (.whole 1), .height (.whole 2)⟩).run.Runs ms
        (.done (.error e)) := by
  refine ⟨⟨[], _, .nil _⟩, ?_⟩
  generalize hcode : List.replicate (Nat.pow 256 4) (0 : UInt8) = code
  have hlen : Nat.pow 256 4 ≤ code.length :=
    Nat.le_of_eq (by rw [← hcode, List.length_replicate])
  obtain ⟨e, he⟩ := Delegate.sign_oversize (d := ⟨alice.signer.account, gift.receiver,
    [.deployContract code], .whole 1, .whole 2, (KeyPair.ofSecret secret).publicKey⟩) secret
    List.mem_cons_self hlen
  refine ⟨[.change (·.nextTurn 0) start], e, ?_⟩
  have hend := Draft.delegateWith_of_error (n := testNode) (h := alice)
    (d := { gift with actions := [.direct (.deployContract code)] }) he
  have hactions : ({ gift with actions := [.direct (.deployContract code)] } : Draft).delegable =
      .ok [.deployContract code] := rfl
  rw [Draft.delegate_run (h := alice) hactions rfl]
  refine .cons (.change ..) ?_
  rw [alice_key, hend]
  exact .nil _

end LedgerClient
