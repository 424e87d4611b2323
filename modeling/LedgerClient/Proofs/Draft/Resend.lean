import LedgerClient.Proofs.Draft.Sends

/-!
The posts of one transaction. A send gives a transaction up for another one only behind a
rejection, but the rejection need not be the answer to its first post: the failures before it left
open whether the ledger had taken the transaction. So every post of a transaction that was given up
was rejected just where there was a single one.
-/

namespace LedgerClient

variable {δ : Type} {url l : String} {m m' : Move Shared δ} {t t' : SignedTransaction}
  {text : String} {r r' : Reply} {n a : Int} {g g' : Stage} {ms ms₁ ms₂ ms₃ : List (Move Shared δ)}

/-- The replies to the posts of a text, in order. -/
def repliesTo (text : String) (ms : List (Move Shared δ)) : List Reply :=
  ((submissions ms).filter (·.1 = text)).map (·.2)

/-- Some post of the transaction is followed by a post of another one. -/
def Superseded (t : SignedTransaction) (ms : List (Move Shared δ)) : Prop :=
  ∃ ms₁ m ms₂ m' ms₃ r t' r', ms = ms₁ ++ m :: (ms₂ ++ m' :: ms₃) ∧ m.Posts t r ∧
    m'.Posts t' r' ∧ t' ≠ t

/-- The reply rejects the nonce. -/
def Reply.Rejects (url : String) (r : Reply) : Prop :=
  ∃ e v, r.result url = .error e ∧ e.rejection? = some v

/-- The law against signing blindly anew: whatever was given up for another transaction was
rejected each time that it was posted. -/
def NeverBlind (url : String) (ms : List (Move Shared δ)) : Prop :=
  ∀ t, Superseded t ms → ∀ m ∈ ms, ∀ r, m.Posts t r → r.Rejects url

lemma repliesTo_append :
    repliesTo text (ms₁ ++ ms₂) = repliesTo text ms₁ ++ repliesTo text ms₂ := by
  simp [repliesTo, submissions]

section Replies

variable (ht : t.toBase64 = .ok text)

include ht

lemma mem_repliesTo : r ∈ repliesTo text ms ↔ ∃ m ∈ ms, m.Posts t r := by
  simp [repliesTo, submissions, Move.submission?_eq_some ht]

lemma repliesTo_cons_of_posts (h : m.Posts t r) :
    repliesTo text (m :: ms) = r :: repliesTo text ms := by
  simp [repliesTo, submissions, (Move.submission?_eq_some ht).2 h]

lemma repliesTo_cons_of_not (h : ∀ r, ¬ m.Posts t r) :
    repliesTo text (m :: ms) = repliesTo text ms := by
  cases hm : m.submission? with
  | none => simp [repliesTo, submissions, hm]
  | some p =>
    have hp : p.1 ≠ text := by
      rintro rfl
      exact h p.2 ((Move.submission?_eq_some ht).1 hm)
    simp [repliesTo, submissions, hm, hp]

end Replies

lemma Reply.Rejects.settled (h : r.Rejects url) : ¬ r.Unsettled url := by
  obtain ⟨e, v, he, hv⟩ := h
  rintro ⟨e', he', hs⟩
  obtain rfl : e = e' := by simpa using he.symm.trans he'
  rw [Error.shouldResend_of_rejection hv] at hs
  cases hs

namespace Stage

lemma behind_cases (t : SignedTransaction) (url : String) (r : Reply) :
    behind t (r.result url) = ended ∨
    (behind t (r.result url) = posted t ∧ r.Unsettled url) ∨
    ∃ a, behind t (r.result url) = rejected a ∧ r.Rejects url := by
  cases hr : r.result url with
  | ok v => exact .inl rfl
  | error e =>
    by_cases hs : e.shouldResend
    · exact .inr (.inl ⟨by simp [behind, hs], e, hr, hs⟩)
    · cases hv : e.rejection?.bind Value.whole? with
      | none => exact .inl (by simp [behind, hs, hv])
      | some a =>
        obtain ⟨v, hv', _⟩ := Option.bind_eq_some_iff.1 hv
        exact .inr (.inr ⟨a, by simp [behind, hs, hv], e, v, hr, hv'⟩)

/-! ### Giving a transaction up -/

lemma ended_leads (hl : (discipline url l).Leads .ended ms g) : g = .ended := by
  generalize hg : Stage.ended = g₀ at hl
  induction hl with
  | nil => rfl
  | cons hr _ ih =>
    subst hg
    cases hr with
    | quiet _ => exact ih rfl

/-- A transaction stays in hand as long as it is not posted again. -/
lemma posted_leads (hl : (discipline url l).Leads (.posted t) ms g)
    (ht : t.toBase64 = .ok text) (hn : repliesTo text ms = []) : g = .posted t := by
  generalize hg : Stage.posted t = g₀ at hl
  induction hl with
  | nil => rfl
  | cons hr _ ih =>
    subst hg
    cases hr with
    | quiet hq =>
      rw [repliesTo_cons_of_not ht fun r hp => hp.not_quiet hq] at hn
      exact ih hn rfl
    | repost hp =>
      rw [repliesTo_cons_of_posts ht hp] at hn
      cases hn

/-- Behind a rejection a transaction is not posted without its nonce being handed out again. -/
lemma rejected_leads (hl : (discipline url l).Leads (.rejected a) ms g)
    (htext : t.toBase64 = .ok text) (ht : t.transaction.Takes l n)
    (hn : ∀ m ∈ ms, ¬ m.Issues l n) : repliesTo text ms = [] := by
  rw [List.eq_nil_iff_forall_not_mem]
  intro r hr
  obtain ⟨m, hm, hp⟩ := (mem_repliesTo htext).1 hr
  obtain ⟨ms₁, ms₂, rfl⟩ := List.append_of_mem hm
  obtain ⟨k, k', h1, hrule, -⟩ := hl.at
  obtain ⟨n', ht', x, hx, hi⟩ :=
    (posts_sourced (P := fun _ => False) h1 trivial hrule hp).resolve_left id
  obtain ⟨_, rfl⟩ := ht.unique ht'
  exact hn x (List.mem_append_left _ hx) hi

/-- The replies to a transaction that has been given up: a rejection behind failures that left it
open. By induction on the moves; its nonce is not handed out again, so that it does not come back
behind the rejection. -/
theorem given_up (hl : (discipline url l).Leads g ms g') (htext : t.toBase64 = .ok text)
    (ht : t.transaction.Takes l n)
    (hn : ∀ ms₁ m ms₂, ms = ms₁ ++ m :: ms₂ → (∃ r, m.Posts t r) → ∀ x ∈ ms₂, ¬ x.Issues l n)
    (hpost : g' ≠ .posted t) (hend : g' ≠ .ended) :
    repliesTo text ms = [] ∨
    ∃ rs r, repliesTo text ms = rs ++ [r] ∧ r.Rejects url ∧ ∀ x ∈ rs, x.Unsettled url := by
  induction hl with
  | nil => exact .inl rfl
  | @cons g₁ g₂ g₃ m ms hr hl ih =>
    have ih := ih (fun ms₁ x ms₂ h => hn (m :: ms₁) x ms₂ (by rw [h]; rfl)) hpost hend
    by_cases hp : ∃ r, m.Posts t r
    · obtain ⟨r, hp⟩ := hp
      rw [repliesTo_cons_of_posts htext hp]
      obtain ⟨rfl, -⟩ := rule_posts hr hp
      rcases behind_cases t url r with hb | ⟨hb, hu⟩ | ⟨a, hb, hrej⟩
      · rw [hb] at hl
        exact absurd (ended_leads hl) hend
      · rcases ih with h0 | ⟨rs, r', h1, hrej, hrs⟩
        · rw [hb] at hl
          exact absurd (posted_leads hl htext h0) hpost
        · exact .inr ⟨r :: rs, r', by rw [h1]; rfl, hrej, List.forall_mem_cons.2 ⟨hu, hrs⟩⟩
      · rw [hb] at hl
        have h0 := rejected_leads hl htext ht (hn [] m ms rfl ⟨r, hp⟩)
        exact .inr ⟨[], r, by rw [h0]; rfl, hrej, by simp⟩
    · rw [repliesTo_cons_of_not htext fun r h => hp ⟨r, h⟩]
      exact ih

end Stage

/-! ### Sends in company -/

variable {ι : Type} [DecidableEq ι] {drafts : ι → Draft} {nodes : ι → Node Float} {s : Shared}
  {ps : List (ι × Move Shared Float)} {c : Company ι Shared Float (Except Error View.Outcome)}

section Runs

variable (h : Company.Run (sends drafts nodes s) ps c)
  (hs : ∀ p ∈ ps, p.2.Meets Reply.NamesLedger)

include h hs

/-- Behind its post the nonce of a transaction is not handed out again. -/
lemma not_reissued {i : ι} {ns₁ ns₂ : List (Move Shared Float)} {m : Move Shared Float}
    (hps : own i ps = ns₁ ++ m :: ns₂) (hm : m.Posts t r) (ht : t.transaction.Takes l n) :
    ∀ x ∈ ns₂, ¬ x.Issues l n := by
  intro x hx hi
  obtain ⟨l', g, hl⟩ := sends_staged h hs i
  rw [hps] at hl
  obtain ⟨n', ht', y, hy, hi'⟩ := Stage.post_sourced hl hm
  obtain ⟨rfl, rfl⟩ := ht.unique ht'
  have hinc := sends_increase_own h hs l i
  rw [hps, List.pairwise_append] at hinc
  exact Int.lt_irrefl n (hinc.2.2 y hy x (List.mem_cons_of_mem _ hx) n n hi' hi)

/-- Behind the post of another transaction a transaction does not come back. -/
lemma not_posted_again {i : ι} {ns₁ ns₂ ns₃ : List (Move Shared Float)}
    {m m' : Move Shared Float} (hps : own i ps = ns₁ ++ m :: (ns₂ ++ m' :: ns₃))
    (hm : m.Posts t r) (hm' : m'.Posts t' r') (hne : t' ≠ t) :
    ∀ x ∈ m' :: ns₃, ∀ r, ¬ x.Posts t r := by
  intro x hx r'' hp
  rcases List.mem_cons.1 hx with rfl | hx
  · exact hne (hm'.unique hp).1
  · obtain ⟨u, v, rfl⟩ := List.append_of_mem hx
    obtain ⟨l, g, hl⟩ := sends_staged h hs i
    have hl₁ := hps ▸ hl
    obtain ⟨n, ht, -⟩ := Stage.post_sourced hl₁ hm
    have hps' : own i ps = (ns₁ ++ m :: ns₂) ++ m' :: (u ++ x :: v) := by rw [hps]; simp
    have hl₂ := hps' ▸ hl
    obtain heq | ⟨n', ht', y, hy, hi⟩ := Stage.later_sourced hl₂ hm' hp
    · exact hne heq.symm
    · obtain ⟨_, rfl⟩ := ht.unique ht'
      exact not_reissued h hs hps hm ht y (by simp [hy]) hi

/-- A transaction that was given up for another one met with failures that left it open, and at
last with a rejection. -/
lemma superseded_replies {i : ι} (hsup : Superseded t (own i ps)) :
    ∃ text rs r, t.toBase64 = .ok text ∧ repliesTo text (own i ps) = rs ++ [r] ∧
      r.Rejects (nodes i).url ∧ ∀ x ∈ rs, x.Unsettled (nodes i).url := by
  obtain ⟨ns₁, m, ns₂, m', ns₃, r, t', r', hps, hm, hm', hne⟩ := hsup
  obtain ⟨_, text, _, _, htext⟩ := id hm
  obtain ⟨l, g, hl⟩ := sends_staged h hs i
  have hl₁ := hps ▸ hl
  obtain ⟨n, ht, -⟩ := Stage.post_sourced hl₁ hm
  -- all its posts are among the moves before the other transaction
  have hps' : own i ps = (ns₁ ++ m :: ns₂) ++ m' :: ns₃ := by rw [hps]; simp
  have hback : repliesTo text (m' :: ns₃) = [] := by
    rw [List.eq_nil_iff_forall_not_mem]
    intro r'' hr
    obtain ⟨x, hx, hp⟩ := (mem_repliesTo htext).1 hr
    exact not_posted_again h hs hps hm hm' hne x hx r'' hp
  have hsplit : repliesTo text (own i ps) = repliesTo text (ns₁ ++ m :: ns₂) := by
    rw [hps', repliesTo_append, hback, List.append_nil]
  -- and they lead to a stage in which it is no longer in hand
  obtain ⟨k, k', hk, hrule, -⟩ := (hps' ▸ hl).at
  obtain ⟨-, hstage⟩ := Stage.rule_posts hrule hm'
  have hkt : k ≠ .posted t := by rcases hstage with ⟨_, rfl, _⟩ | rfl <;> simp [hne]
  have hko : k ≠ .ended := by rcases hstage with ⟨_, rfl, _⟩ | rfl <;> simp
  have hn : ∀ a y b, ns₁ ++ m :: ns₂ = a ++ y :: b → (∃ r, y.Posts t r) →
      ∀ x ∈ b, ¬ x.Issues l n := by
    rintro a y b hab ⟨r, hy⟩ x hx
    rw [hab, List.append_assoc, List.cons_append] at hps'
    exact not_reissued h hs hps' hy ht x (List.mem_append_left _ hx)
  rcases Stage.given_up hk htext ht hn hkt hko with h0 | ⟨rs, r'', h1, hrej, hrs⟩
  · have hmem : r ∈ repliesTo text (ns₁ ++ m :: ns₂) :=
      (mem_repliesTo htext).2 ⟨m, by simp, hm⟩
    rw [h0] at hmem
    cases hmem
  · exact ⟨text, rs, r'', htext, hsplit.trans h1, hrej, hrs⟩

end Runs

section Renewed

variable {text' : String} {rs : List Reply}
  (h : submissions ms = (rs ++ [r]).map (text, ·) ++ [(text', r')])

include h

/-- Where a send goes on to another nonce, the transaction before it is given up. -/
lemma superseded_of_submissions {k k' : Int} (hx : Carries text k) (hy : Carries text' k')
    (hk : k ≠ k') : ∃ t, t.toBase64 = .ok text ∧ Superseded t ms := by
  obtain ⟨t, ht, hn⟩ := hx
  obtain ⟨t', ht', hn'⟩ := hy
  have hne : t' ≠ t := by
    rintro rfl
    exact hk (by simpa using hn.symm.trans hn')
  have hre : submissions ms = rs.map (text, ·) ++ (text, r) :: ([] ++ [(text', r')]) := by
    simpa using h
  obtain ⟨ms₁, m, ms₂, m', ms₃, hms, hm, hm'⟩ := exists_posts ht ht' hre
  exact ⟨t, ht, ms₁, m, ms₂, m', ms₃, r, t', r', hms, hm, hm', hne⟩

/-- The law fails of every run in which a failure had left the transaction open. -/
lemma not_neverBlind {k k' : Int} (hx : Carries text k) (hy : Carries text' k') (hk : k ≠ k')
    {x : Reply} (hxs : x ∈ rs) (hu : x.Unsettled url) : ¬ NeverBlind url ms := by
  intro hlaw
  obtain ⟨t, ht, hsup⟩ := superseded_of_submissions h hx hy hk
  have hmem : x ∈ repliesTo text ms := by simp [repliesTo, h, hxs]
  obtain ⟨m, hm, hp⟩ := (mem_repliesTo ht).1 hmem
  exact (hlaw t hsup m hm x hp).settled hu

end Renewed

/-- **Lost answers.** Whichever failures leave the first transaction of a send open, a rejection
behind them leads to a run that breaks the law, for any draft that can be sent and signed. -/
theorem Draft.send_blind {d : Draft} {n : Node Float} {h : Holder} {k : KeyPair}
    (A : Answers n.url) (s : Shared) (hr : d.ready = .ok h)
    (hk : h.signer.key (s.turn h.seat) = k) (hl : A.lost ≠ [])
    (hn : A.lost.length < n.policy.attempts)
    (hd : ∀ j, j < A.lost.length → ∃ w, n.policy.delay j = .ok w)
    (hs : s.nonces.next? (h.line k) = none) (hx : d.Signs h k (A.nonce + 1) A.origin)
    (hy : d.Signs h k A.renewed A.origin) :
    ∃ ms u o, Dialogue.Solo s (d.send n).run ms u (.done (.ok o)) ∧ ¬ NeverBlind n.url ms := by
  obtain ⟨text, text', u, o, hm, hm', _, ms, hrun, hsub, _⟩ :=
    d.send_renewed A s hr hk hn hd hs hx hy
  obtain ⟨x, hxs⟩ := List.exists_mem_of_ne_nil _ hl
  exact ⟨ms, u, o, hrun, not_neverBlind hsub hm hm' (Int.ne_of_lt A.lt_renewed) hxs
    (A.lost_unsettled x hxs).2⟩

/-- **Blind signing.** A send gives a transaction up for another one only when the last reply to it
was a rejection, behind failures that had left it open. The law against signing blindly therefore
holds of a send just where it posted everything that it gave up a single time. -/
theorem neverBlind_iff (drafts : ι → Draft) (nodes : ι → Node Float) (s : Shared)
    (ps : List (ι × Move Shared Float)) (c : Company ι Shared Float (Except Error View.Outcome))
    (h : Company.Run (sends drafts nodes s) ps c)
    (hs : ∀ p ∈ ps, p.2.Meets Reply.NamesLedger) (i : ι) :
    (∀ t, Superseded t (own i ps) → ∃ text rs r, t.toBase64 = .ok text ∧
      repliesTo text (own i ps) = rs ++ [r] ∧ r.Rejects (nodes i).url ∧
      ∀ x ∈ rs, x.Unsettled (nodes i).url) ∧
    (NeverBlind (nodes i).url (own i ps) ↔ ∀ t text, Superseded t (own i ps) →
      t.toBase64 = .ok text → (repliesTo text (own i ps)).length = 1) := by
  refine ⟨fun t ht => superseded_replies h hs ht, fun hlaw t text ht htext => ?_,
    fun hone t ht m hm r hp => ?_⟩
  · obtain ⟨text', rs, r, htext', hrs, -, hun⟩ := superseded_replies h hs ht
    obtain rfl := Except.ok.inj (htext.symm.trans htext')
    cases rs with
    | nil => rw [hrs]; rfl
    | cons x rs =>
      -- the first reply would both leave the transaction open and reject it
      have hx : x ∈ repliesTo text (own i ps) := by simp [hrs]
      obtain ⟨m, hm, hp⟩ := (mem_repliesTo htext).1 hx
      exact absurd (hun x List.mem_cons_self) (hlaw t ht m hm x hp).settled
  · obtain ⟨text, rs, r', htext, hrs, hrej, -⟩ := superseded_replies h hs ht
    have hlen := hone t text ht htext
    have hmem := (mem_repliesTo htext).2 ⟨m, hm, hp⟩
    rw [hrs] at hlen hmem
    obtain rfl : rs = [] := by simpa using hlen
    obtain rfl := List.mem_singleton.1 hmem
    exact hrej

open Gifts in
/-- The law holds where the only post of a transaction is rejected at once. -/
theorem gifts_neverBlind : ∃ ps c,
    Company.Run (sends (fun _ : Bool => gift) (fun _ => testNode) start) ps c ∧
    (∀ p ∈ ps, p.2.Meets Reply.NamesLedger) ∧ (∃ t, Superseded t (own true ps)) ∧
    NeverBlind testNode.url (own true ps) := by
  obtain ⟨text, text', _, ps, c, hx, hy, _, h, h₁, _, hs⟩ := Gifts.run [] (by decide) (by simp)
  have hne : text ≠ text' := by
    rintro rfl
    exact absurd (hx.unique hy) (by decide)
  obtain ⟨t, _, hsup⟩ := superseded_of_submissions h₁ hx hy (by decide)
  refine ⟨ps, c, h, hs, ⟨t, hsup⟩, ?_⟩
  refine (neverBlind_iff (fun _ => gift) (fun _ => testNode) start ps c h hs true).2.2 ?_
  rintro u x ⟨_, m, _, _, _, r, _, _, hps, hm, _, _⟩ hu
  have hr : r ∈ repliesTo x (own true ps) := (mem_repliesTo hu).2 ⟨m, by simp [hps], hm⟩
  rw [repliesTo, h₁] at hr ⊢
  -- of both texts there is one post, and of no other one
  by_cases hx : text = x
  · subst hx
    simp [Ne.symm hne]
  · by_cases hx' : text' = x
    · subst hx'
      simp [hne]
    · simp [hx, hx'] at hr

open Gifts in
/-- The law fails where the first post of a transaction is lost and the second one is rejected. -/
theorem gifts_blind : ∃ ps c,
    Company.Run (sends (fun _ : Bool => gift) (fun _ => testNode) start) ps c ∧
    (∀ p ∈ ps, p.2.Meets Reply.NamesLedger) ∧ ¬ NeverBlind testNode.url (own true ps) := by
  obtain ⟨text, text', _, ps, c, hx, hy, _, h, h₁, _, hs⟩ :=
    Gifts.run [.timedOut] (by decide) (by simpa using timedOut_unsettled _)
  exact ⟨ps, c, h, hs, not_neverBlind h₁ hx hy (by decide) List.mem_cons_self
    (timedOut_unsettled _).2⟩

end LedgerClient
