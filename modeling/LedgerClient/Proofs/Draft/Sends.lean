import LedgerClient.Proofs.Dialogue.Company
import LedgerClient.Proofs.Draft.Renewal
import LedgerClient.Proofs.Draft.Trace

/-!
Sends that share their nonces, in any number and interleaved in any way. No two transactions that
they post take the same nonce of the same key, and behind a rejection a send goes on with a nonce
above everything that was handed out before.
-/

namespace LedgerClient

variable {ι : Type} [DecidableEq ι]

/-- Sends of several drafts, each to a node of its own, over one shared state. -/
def sends (drafts : ι → Draft) (nodes : ι → Node Float) (s : Shared) :
    Company ι Shared Float (Except Error View.Outcome) :=
  ⟨s, fun i => ((drafts i).send (nodes i)).run⟩

variable {drafts : ι → Draft} {nodes : ι → Node Float} {s : Shared}
  {ms ms₁ ms₂ ms₃ : List (ι × Move Shared Float)}
  {c : Company ι Shared Float (Except Error View.Outcome)}

section Runs

variable (h : Company.Run (sends drafts nodes s) ms c)
  (hs : ∀ p ∈ ms, p.2.Meets Reply.NamesLedger)

include h hs

lemma sends_staged (i : ι) :
    ∃ l g, (Stage.discipline (nodes i).url l).Leads .idle (own i ms) g :=
  Draft.send_staged _ _ (h.own i) fun m hm => hs (i, m) (mem_own.1 hm)

/-- Nothing that a send does drops a line. -/
lemma sends_raise (l : String) : ∀ m ∈ ms.map Prod.snd, m.Raises l := by
  intro m hm
  obtain ⟨⟨i, m⟩, hp, rfl⟩ := List.mem_map.1 hm
  obtain ⟨l', g, hl⟩ := sends_staged h hs i
  obtain ⟨ms₁, ms₂, hsplit⟩ := List.append_of_mem (mem_own.2 hp)
  rw [hsplit] at hl
  obtain ⟨k, k', -, hr, -⟩ := hl.at
  exact Stage.rule_raises hr l

/-- The nonces of each line are handed out in increasing order, to whichever of the sends. -/
theorem sends_increase (l : String) :
    ms.Pairwise fun p q => ∀ a b, p.2.Issues l a → q.2.Issues l b → a < b :=
  List.pairwise_map.1 (h.chained.issued_increasing (sends_raise h hs l))

lemma sends_increase_own (l : String) (i : ι) :
    (own i ms).Pairwise fun m m' => ∀ a b, m.Issues l a → m'.Issues l b → a < b :=
  List.pairwise_map.2 ((sends_increase h hs l).filter _)

/-- A nonce of a line is handed out once, and to one send. -/
lemma issued_once {l : String} {n : Int} {p q : ι × Move Shared Float} (hp : p ∈ ms)
    (hq : q ∈ ms) (hpn : p.2.Issues l n) (hqn : q.2.Issues l n) : p = q :=
  Ordered.unique (sends_increase h hs l) hp hq hpn hqn

/-- The posts of one send that take the same nonce carry the same transaction. -/
lemma posts_agree {i : ι} {ns₁ ns₂ ns₃ : List (Move Shared Float)} {m m' : Move Shared Float}
    {t t' : SignedTransaction} {r r' : Reply} (hms : own i ms = ns₁ ++ m :: (ns₂ ++ m' :: ns₃))
    (hm : m.Posts t r) (hm' : m'.Posts t' r') {l : String} {n : Int}
    (ht : t.transaction.Takes l n) (ht' : t'.transaction.Takes l n) : t' = t := by
  obtain ⟨l', g, hl⟩ := sends_staged h hs i
  rw [hms] at hl
  refine (Stage.later_sourced hl hm hm').resolve_right ?_
  rintro ⟨k, hk, x, hx, hi⟩
  obtain ⟨k', hk', x', hx', hi'⟩ := Stage.post_sourced hl hm
  -- both nonces are the one, and it would have been handed out twice
  obtain ⟨rfl, rfl⟩ := ht.unique hk'
  obtain ⟨_, rfl⟩ := ht'.unique hk
  have hinc := sends_increase_own h hs l i
  rw [hms, List.pairwise_append] at hinc
  have := hinc.2.2 x' hx' x (by simp [hx]) n n hi' hi
  omega

/-- A post takes a nonce that was handed out to its send. -/
lemma post_takes {i : ι} {m : Move Shared Float} {t : SignedTransaction} {r : Reply}
    (hi : (i, m) ∈ ms) (hm : m.Posts t r) :
    ∃ l n, t.transaction.Takes l n ∧ ∃ x, (i, x) ∈ ms ∧ x.Issues l n := by
  obtain ⟨l, g, hl⟩ := sends_staged h hs i
  obtain ⟨ns₁, ns₂, hsplit⟩ := List.append_of_mem (mem_own.2 hi)
  have hsub : ns₁ ⊆ own i ms := hsplit ▸ List.subset_append_left _ _
  rw [hsplit] at hl
  obtain ⟨n, ht, x, hx, hxn⟩ := Stage.post_sourced hl hm
  exact ⟨l, n, ht, x, mem_own.1 (hsub hx), hxn⟩

/-- Two posts, of whichever sends, that take the same nonce carry the same transaction. -/
lemma posts_eq {i j : ι} {m m' : Move Shared Float} {t t' : SignedTransaction} {r r' : Reply}
    (hi : (i, m) ∈ ms) (hj : (j, m') ∈ ms) (hm : m.Posts t r) (hm' : m'.Posts t' r') {l : String}
    {n : Int} (ht : t.transaction.Takes l n) (ht' : t'.transaction.Takes l n) : t = t' := by
  obtain ⟨l₁, n₁, ht₁, x, hx, hxn⟩ := post_takes h hs hi hm
  obtain ⟨l₂, n₂, ht₂, y, hy, hyn⟩ := post_takes h hs hj hm'
  obtain ⟨rfl, rfl⟩ := ht.unique ht₁
  obtain ⟨rfl, rfl⟩ := ht'.unique ht₂
  -- the nonce was handed out once, so both posts are of one send
  obtain rfl : i = j := congrArg Prod.fst (issued_once h hs hx hy hxn hyn)
  obtain ⟨ns₁, ns₂, hsplit⟩ := List.append_of_mem (mem_own.2 hi)
  have hmem : m' ∈ ns₁ ++ m :: ns₂ := hsplit ▸ mem_own.2 hj
  rcases List.mem_append.1 hmem with hm₁ | hm₂
  · obtain ⟨u, v, rfl⟩ := List.append_of_mem hm₁
    rw [List.append_assoc, List.cons_append] at hsplit
    exact posts_agree h hs hsplit hm' hm ht' ht
  · rcases List.mem_cons.1 hm₂ with rfl | hm₂
    · exact (hm.unique hm').1
    · obtain ⟨u, v, rfl⟩ := List.append_of_mem hm₂
      exact (posts_agree h hs hsplit hm hm' ht ht').symm

end Runs

section Rejection

variable {i : ι} {m m' : Move Shared Float} {t t' : SignedTransaction} {r r' : Reply} {a : Int}

/-- Between a rejection and the next post the send is handed out a nonce that is above the ledger's
and above all that were handed out on its line until then. -/
lemma renewed (h : Company.Run (sends drafts nodes s) ms c)
    (hs : ∀ p ∈ ms, p.2.Meets Reply.NamesLedger)
    (hms : ms = ms₁ ++ (i, m) :: (ms₂ ++ (i, m') :: ms₃)) (hm : m.Posts t r)
    (hr : r.ledgers? (nodes i).url = some a) (hm' : m'.Posts t' r') :
    ∃ n, t'.transaction.nonce = .whole n ∧ a < n ∧ ∃ before x behind,
      ms₂ = before ++ (i, x) :: behind ∧ x.Issues t'.transaction.line n ∧
      ∀ p ∈ ms₁ ++ (i, m) :: before, ∀ k, p.2.Issues t'.transaction.line k → k < n := by
  obtain ⟨l, g, hl⟩ := sends_staged h hs i
  have howns : own i ms = own i ms₁ ++ m :: (own i ms₂ ++ m' :: own i ms₃) := by simp [hms]
  rw [howns] at hl
  obtain ⟨⟨n, ht, x, hx, hxn⟩, g', hl'⟩ := Stage.sourced_of_rejected hl hm hr hm'
  have hinc := sends_increase_own h hs l i
  rw [howns] at hinc
  have hinc₂ := (List.pairwise_append.1 (List.pairwise_cons.1
    (List.pairwise_append.1 hinc).2.1).2).1
  obtain ⟨before, behind, rfl⟩ := List.append_of_mem (mem_own.1 hx)
  obtain rfl := ht.1
  refine ⟨n, ht.2, Stage.issued_gt hl' hinc₂ x hx n hxn, before, x, behind, rfl, hxn, ?_⟩
  intro p hp k hk
  have hall := sends_increase h hs t'.transaction.line
  have hre : ms = (ms₁ ++ (i, m) :: before) ++ (i, x) :: (behind ++ (i, m') :: ms₃) := by
    simp [hms]
  rw [hre] at hall
  exact (List.pairwise_append.1 hall).2.2 p hp _ List.mem_cons_self k n hk hxn

end Rejection

/-- **Distinct nonces.** Any sends over shared nonces, from any state, interleaved in any way and
with any replies, as long as a rejection names the ledger's nonce. All that goes to `send_tx` are
signed transactions; two that take the same nonce of the same key are one; and what a send posts
behind a rejection takes a nonce that was handed out to it since, above the ledger's and above every
nonce of the key that was handed out before. -/
theorem sends_distinct (drafts : ι → Draft) (nodes : ι → Node Float) (s : Shared)
    (ms : List (ι × Move Shared Float)) (c : Company ι Shared Float (Except Error View.Outcome))
    (h : Company.Run (sends drafts nodes s) ms c)
    (hs : ∀ p ∈ ms, p.2.Meets Reply.NamesLedger) :
    (∀ i q r, (i, .exchange q r) ∈ ms → q.method = "send_tx" →
      ∃ t, (.exchange q r : Move Shared Float).Posts t r) ∧
    (∀ i j m m' t t' r r', (i, m) ∈ ms → (j, m') ∈ ms → m.Posts t r → m'.Posts t' r' →
      t.transaction.signer = t'.transaction.signer →
      t.transaction.publicKey = t'.transaction.publicKey →
      t.transaction.nonce = t'.transaction.nonce → t = t') ∧
    ∀ i ms₁ m ms₂ m' ms₃ t t' r r' a, ms = ms₁ ++ (i, m) :: (ms₂ ++ (i, m') :: ms₃) →
      m.Posts t r → r.ledgers? (nodes i).url = some a → m'.Posts t' r' →
      ∃ n, t'.transaction.nonce = .whole n ∧ a < n ∧ ∃ before x behind,
        ms₂ = before ++ (i, x) :: behind ∧ x.Issues t'.transaction.line n ∧
        ∀ p ∈ ms₁ ++ (i, m) :: before, ∀ k, p.2.Issues t'.transaction.line k → k < n := by
  refine ⟨fun i q r hi hq => ?_, fun i j m m' t t' r r' hi hj hm hm' hsig hkey hnonce => ?_,
    fun i ms₁ m ms₂ m' ms₃ t t' r r' a hms hm hr hm' => renewed h hs hms hm hr hm'⟩
  · obtain ⟨l, g, hl⟩ := sends_staged h hs i
    obtain ⟨ns₁, ns₂, hsplit⟩ := List.append_of_mem (mem_own.2 hi)
    rw [hsplit] at hl
    obtain ⟨k, k', -, hr, -⟩ := hl.at
    exact Stage.rule_exchange hr hq
  · obtain ⟨l, n, ht, -⟩ := post_takes h hs hi hm
    have hline : t.transaction.line = t'.transaction.line := by
      rw [Transaction.line, Transaction.line, hsig, hkey]
    exact posts_eq h hs hi hj hm hm' ht ⟨hline ▸ ht.1, hnonce ▸ ht.2⟩

open Gifts in
/-- Two sends with one key, of which the first one takes three posts. -/
theorem gifts_distinct : ∃ ms c,
    Company.Run (sends (fun _ : Bool => gift) (fun _ => testNode) start) ms c ∧
    (∀ p ∈ ms, p.2.Meets Reply.NamesLedger) ∧ (submissions (own true ms)).length = 3 ∧
    (submissions (own false ms)).length = 1 ∧
    ∀ i j m m' t t' r r', (i, m) ∈ ms → (j, m') ∈ ms → m.Posts t r → m'.Posts t' r' →
      t.transaction.signer = t'.transaction.signer →
      t.transaction.publicKey = t'.transaction.publicKey →
      t.transaction.nonce = t'.transaction.nonce → t = t' := by
  obtain ⟨_, _, _, ms, c, _, _, _, h, h₁, h₂, hs⟩ := Gifts.run [.timedOut] (by decide)
    (by simpa using timedOut_unsettled _)
  refine ⟨ms, c, h, hs, by rw [h₁]; rfl, by rw [h₂]; rfl, ?_⟩
  exact (sends_distinct (fun _ => gift) (fun _ => testNode) start ms c h hs).2.1

end LedgerClient
