import LedgerClient.Proofs.Draft.Stage

/-!
What the stages of a send imply for its moves: where the nonces of its posts come from, and what
lies between the posts of two transactions.
-/

namespace LedgerClient

variable {δ : Type} {url l : String} {m : Move Shared δ} {t t' : SignedTransaction} {r r' : Reply}
  {n a : Int} {g g' : Stage} {ms ms₁ ms₂ ms₃ : List (Move Shared δ)}

namespace Move

lemma Posts.unique (h : m.Posts t r) (h' : m.Posts t' r') : t = t' ∧ r = r' := by
  obtain ⟨q, text, rfl, hq, ht⟩ := h
  obtain ⟨q', text', hm, hq', ht'⟩ := h'
  cases hm
  obtain rfl := Option.some.inj (hq.symm.trans hq')
  exact ⟨SignedTransaction.toBase64_injective ht ht', rfl⟩

lemma Posts.not_quiet (h : m.Posts t r) : ¬ m.Quiet := by
  obtain ⟨q, text, rfl, hq, -⟩ := h
  intro hne
  simp only [Request.posted?] at hq
  split at hq
  · rw [if_neg hne] at hq
    cases hq
  · cases hq

lemma Posts.not_issues (h : m.Posts t r) : ¬ m.Issues l n := by
  obtain ⟨q, text, rfl, -⟩ := h
  rintro ⟨op, s, hm, -⟩
  cases hm

end Move

namespace Stage

/-! ### Single moves -/

/-- A post is made from its nonce or from the transaction itself, and leaves what its reply says. -/
lemma rule_posts (h : Rule url l g m g') (hm : m.Posts t r) :
    g' = behind t (r.result url) ∧
      ((∃ n, g = fresh n ∧ t.transaction.Takes l n) ∨ g = posted t) := by
  cases h with
  | quiet hq => exact absurd hq hm.not_quiet
  | claim hi => exact absurd hi hm.not_issues
  | reclaim hi _ => exact absurd hi hm.not_issues
  | post hp ht =>
    obtain ⟨rfl, rfl⟩ := hm.unique hp
    exact ⟨rfl, .inl ⟨_, rfl, ht⟩⟩
  | repost hp =>
    obtain ⟨rfl, rfl⟩ := hm.unique hp
    exact ⟨rfl, .inr rfl⟩

lemma rule_raises (h : Rule url l g m g') (l' : String) : m.Raises l' := by
  cases h with
  | quiet hq => exact hq.spares.raises l'
  | claim hi => exact hi.raises l'
  | reclaim hi _ => exact hi.raises l'
  | post hp _ | repost hp =>
    obtain ⟨q, text, rfl, -⟩ := hp
    trivial

/-- Nothing but posts goes to where transactions are submitted. -/
lemma rule_exchange {q : Request} (h : Rule url l g (.exchange q r : Move Shared δ) g')
    (hq : q.method = "send_tx") : ∃ t, (.exchange q r : Move Shared δ).Posts t r := by
  cases h with
  | quiet hn => exact absurd hq hn
  | claim hi | reclaim hi _ =>
    obtain ⟨op, s, hm, -⟩ := hi
    cases hm
  | post hp _ | repost hp =>
    obtain ⟨q', text, hm, h1, h2⟩ := hp
    cases hm
    exact ⟨_, q, text, rfl, h1, h2⟩

/-! ### Where nonces come from -/

/-- The nonce of the transaction was handed out in these moves. -/
def Sourced (l : String) (ms : List (Move Shared δ)) (t : SignedTransaction) : Prop :=
  ∃ n, t.transaction.Takes l n ∧ ∃ m ∈ ms, m.Issues l n

/-- What is in hand comes from these moves, or is a transaction that was known before. -/
def Backed (l : String) (ms : List (Move Shared δ)) (P : SignedTransaction → Prop) :
    Stage → Prop
  | fresh n => ∃ m ∈ ms, m.Issues l n
  | posted t => P t ∨ Sourced l ms t
  | _ => True

variable {P : SignedTransaction → Prop}

lemma Sourced.mono (h : Sourced l ms₁ t) (hs : ms₁ ⊆ ms₂) : Sourced l ms₂ t := by
  obtain ⟨n, ht, m, hm, hi⟩ := h
  exact ⟨n, ht, m, hs hm, hi⟩

lemma Backed.mono (h : Backed l ms₁ P g) (hs : ms₁ ⊆ ms₂) : Backed l ms₂ P g := by
  cases g with
  | fresh n =>
    obtain ⟨m, hm, hi⟩ := h
    exact ⟨m, hs hm, hi⟩
  | posted t => exact h.imp_right fun ht => ht.mono hs
  | idle | rejected a | ended => trivial

lemma backed_behind (h : P t ∨ Sourced l ms t) (res : Except Error Value) :
    Backed l ms P (behind t res) := by
  unfold behind
  split
  · trivial
  · split
    · exact h
    · split <;> trivial

/-- The step lemma: with each move the hand stays backed. -/
lemma Backed.step (h : Backed l ms P g) (hr : Rule url l g m g') :
    Backed l (ms ++ [m]) P g' := by
  have hs : ms ⊆ ms ++ [m] := List.subset_append_left _ _
  have hm : m ∈ ms ++ [m] := List.mem_append_right _ List.mem_cons_self
  cases hr with
  | quiet _ => exact h.mono hs
  | claim hi | reclaim hi _ => exact ⟨m, hm, hi⟩
  | post _ ht =>
    obtain ⟨m', hm', hi⟩ := h
    exact backed_behind (.inr ⟨_, ht, m', hs hm', hi⟩) _
  | repost _ => exact backed_behind (h.imp_right fun ht => ht.mono hs) _

/-- The run lemma. -/
lemma Backed.leads (h : Backed l ms₁ P g) (hl : (discipline url l).Leads g ms₂ g') :
    Backed l (ms₁ ++ ms₂) P g' := by
  induction hl generalizing ms₁ with
  | nil g => rwa [List.append_nil]
  | cons hr _ ih =>
    have := ih (h.step hr)
    rwa [List.append_assoc] at this

/-- What is posted was in hand before, or its nonce was handed out since. -/
lemma posts_sourced (hl : (discipline url l).Leads g ms₁ g')
    (hb : Backed l ([] : List (Move Shared δ)) P g) {k : Stage}
    (hr : Rule url l g' m k) (hm : m.Posts t r) : P t ∨ Sourced l ms₁ t := by
  have hb' : Backed l ms₁ P g' := hb.leads hl
  obtain ⟨-, ⟨n, rfl, ht⟩ | rfl⟩ := rule_posts hr hm
  · exact .inr ⟨n, ht, hb'⟩
  · exact hb'

/-- The nonce of a post was handed out to the same send before. -/
lemma post_sourced (hl : (discipline url l).Leads .idle (ms₁ ++ m :: ms₂) g) (hm : m.Posts t r) :
    Sourced l ms₁ t := by
  obtain ⟨k, k', h1, hr, -⟩ := hl.at
  exact (posts_sourced (P := fun _ => False) h1 trivial hr hm).resolve_left id

/-- Between the posts of two transactions the nonce of the later one is handed out. -/
lemma later_sourced {m' : Move Shared δ}
    (hl : (discipline url l).Leads .idle (ms₁ ++ m :: (ms₂ ++ m' :: ms₃)) g)
    (hm : m.Posts t r) (hm' : m'.Posts t' r') : t' = t ∨ Sourced l ms₂ t' := by
  obtain ⟨k, k', -, hr, h2⟩ := hl.at
  obtain ⟨rfl, -⟩ := rule_posts hr hm
  obtain ⟨j, j', h3, hr', -⟩ := h2.at
  exact posts_sourced h3 (backed_behind (P := (· = t)) (.inl rfl) _) hr' hm'

/-! ### Behind a rejection -/

lemma behind_rejected (h : r.ledgers? url = some a) :
    behind t (r.result url) = rejected a := by
  obtain ⟨e, v, he, hv, ha⟩ := Reply.ledgers?_eq_some h
  rw [he]
  simp [behind, Error.shouldResend_of_rejection hv, hv, ha]

/-- Nonces handed out behind a rejection are above the ledger's. -/
lemma issued_gt (hl : (discipline url l).Leads (.rejected a) ms g)
    (hi : ms.Pairwise fun m m' => ∀ a b, m.Issues l a → m'.Issues l b → a < b) :
    ∀ m ∈ ms, ∀ n, m.Issues l n → a < n := by
  induction ms with
  | nil => simp
  | cons m ms ih =>
    obtain ⟨hhead, htail⟩ := List.pairwise_cons.1 hi
    cases hl with
    | cons hr hl =>
      cases hr with
      | quiet hq =>
        intro m' hm' n hn
        rcases List.mem_cons.1 hm' with rfl | hm'
        · exact absurd hq.spares hn.spares
        · exact ih hl htail m' hm' n hn
      | reclaim hi ha =>
        intro m' hm' n hn
        rcases List.mem_cons.1 hm' with rfl | hm'
        · rwa [hn.unique hi]
        · exact Int.lt_trans ha (hhead m' hm' _ _ hi hn)

/-- A transaction posted behind a rejection has a nonce that was handed out since. -/
lemma sourced_of_rejected {m' : Move Shared δ}
    (hl : (discipline url l).Leads .idle (ms₁ ++ m :: (ms₂ ++ m' :: ms₃)) g)
    (hm : m.Posts t r) (hr : r.ledgers? url = some a) (hm' : m'.Posts t' r') :
    Sourced l ms₂ t' ∧ ∃ k, (discipline url l).Leads (.rejected a) ms₂ k := by
  obtain ⟨k, k', -, hrule, h2⟩ := hl.at
  obtain ⟨rfl, -⟩ := rule_posts hrule hm
  rw [behind_rejected hr] at h2
  obtain ⟨j, j', h3, hrule', -⟩ := h2.at
  exact ⟨(posts_sourced (P := fun _ => False) h3 trivial hrule' hm').resolve_left id, j, h3⟩

end Stage

end LedgerClient
