import LedgerClient.Proofs.Draft.Stage

/-!
How often transactions are posted. An act with a budget pays for each post, and none for anything
else. A loop of attempts that post once each pays for no more than its attempts, so that what is
left of the budget bounds the posts of every run, finished or not.
-/

namespace LedgerClient

open Dialogue

variable {σ δ α β : Type}

namespace Move

/-- Posts a transaction. -/
def submits : Move Shared δ → Bool
  | exchange q _ => q.method = "send_tx"
  | _ => false

lemma Quiet.submits {m : Move Shared δ} (h : m.Quiet) : m.submits = false := by
  cases m with
  | exchange q r => exact decide_eq_false h
  | change f s | pause d => rfl

end Move

/-- Each post takes one of what is in hand. -/
def budget : Discipline Shared δ ℕ := ⟨fun _ => True, fun g m g' => g = g' + m.submits.toNat⟩

lemma budget_leads {g g' : ℕ} {ms : List (Move Shared δ)} (h : budget.Leads g ms g') :
    g = g' + ms.countP Move.submits := by
  induction h with
  | nil g => rfl
  | @cons g g' _ m ms hm _ ih =>
    have hg : g = g' + m.submits.toNat := hm
    rw [hg, ih, List.countP_cons]
    cases m.submits <;> simp [Nat.add_assoc]

namespace Act

/-- Posts so many times at most: whatever it starts with beyond that is left at its end. -/
def Spends (x : Act Shared δ α) (a : ℕ) : Prop :=
  ∀ b g, b + a ≤ g → x.run.Follows budget (fun g' _ => b ≤ g') g

variable {x : Act Shared δ α} {a c : ℕ}

/-- The run lemma. -/
theorem Spends.countP_le (hx : x.Spends a) {ms : List (Move Shared δ)}
    {y : Dialogue Shared δ (Except Error α)} (hr : x.run.Runs ms y) :
    ms.countP Move.submits ≤ a := by
  have hsound (m : Move Shared δ) : m.Meets (budget (δ := δ)).sound := by cases m <;> trivial
  obtain ⟨g, hl, -⟩ := (hx 0 a (Nat.le_of_eq (Nat.zero_add a))).runs hr fun m _ => hsound m
  have := budget_leads hl
  omega

lemma ofExcept_spends (r : Except Error α) : (ofExcept r : Act Shared δ α).Spends a :=
  fun _ _ hg => Nat.le_of_add_right_le hg

lemma change_spends (f : Shared → Shared) : (change f : Act Shared δ Shared).Spends 0 :=
  fun _ g hg _ => ⟨g, rfl, hg⟩

lemma changeWith_spends (f : Shared → α × Shared) : (changeWith f : Act Shared δ α).Spends 0 :=
  fun _ g hg _ => ⟨g, rfl, hg⟩

lemma Spends.bind {f : α → Act Shared δ β} (hx : x.Spends a) (hf : ∀ v, (f v).Spends c) :
    (x >>= f).Spends (a + c) := fun b g hg =>
  follows_bind (hx (b + c) g (by omega)) (fun g' v h => hf v b g' h) fun g' _ h => by omega

/-- What posts nothing comes for free. -/
lemma Spends.free_bind {f : α → Act Shared δ β} (hx : x.Spends 0) (hf : ∀ v, (f v).Spends c) :
    (x >>= f).Spends c := by
  have := hx.bind hf
  rwa [Nat.zero_add] at this

lemma Spends.andThen {f : Except Error α → Act Shared δ β} (hx : x.Spends a)
    (hf : ∀ r, (f r).Spends c) : (x.andThen f).Spends (a + c) := fun b g hg =>
  follows_andThen (hx (b + c) g (by omega)) fun g' r h => hf r b g' h

lemma Quiet.spends {Q : Except Error α → Prop} (hx : x.Quiet Q) : x.Spends 0 := fun b g hg =>
  (hx.follows fun m hm => show g = g + m.submits.toNat by rw [hm.submits]; rfl).imp
    fun _ _ h => h.1 ▸ hg

end Act

/-- By induction on the attempts that are left. -/
theorem RetryPolicy.attemptsFrom_spends [Span δ] (p : RetryPolicy δ) {f : ℕ → Act Shared δ α}
    {a : ℕ} (hf : ∀ n, (f n).Spends a) (left n : ℕ) (latest : Option Error) :
    (p.attemptsFrom f left n latest).Spends (left * a) := by
  induction left generalizing n latest with
  | zero => exact Act.ofExcept_spends _
  | succ left ih =>
    rw [attemptsFrom, Nat.succ_mul, Nat.add_comm (left * a)]
    refine (hf n).andThen fun r => ?_
    cases r with
    | ok v => exact Act.ofExcept_spends _
    | error e =>
      dsimp only
      split
      · exact Act.ofExcept_spends _
      · split
        · exact ih _ _
        · split
          · exact Act.ofExcept_spends _
          · exact fun b g hg => ⟨g, rfl, ih _ _ b g hg⟩

-- nothing is gained here from looking into the binary form of what is posted
attribute [local irreducible] SignedTransaction.toBase64

namespace Node

lemma attempt_spends (n : Node δ) (method : String) (params : Value) :
    (n.attempt method params).Spends 1 := by
  intro b g hg
  refine attempt_follows (fun s => rfl) (fun _ _ => Nat.le_of_add_right_le hg)
    fun q r hq hv _ => ?_
  cases hm : (Move.exchange q r : Move Shared δ).submits with
  | true => exact ⟨g - 1, by simp [budget, hm]; omega, by omega⟩
  | false => exact ⟨g, by simp [budget, hm], by omega⟩

variable [Span δ]

/-- A call makes as many requests as its policy has attempts, or fewer. -/
theorem call_spends (n : Node δ) (method : String) (params : Value) :
    (n.call method params).Spends n.policy.attempts.toNat := by
  have := n.policy.attemptsFrom_spends (fun _ => n.attempt_spends method params)
    n.policy.attempts.toNat 0 none
  rwa [Nat.mul_one] at this

lemma submit_spends (n : Node δ) (t : SignedTransaction) (level : WaitLevel) :
    (n.submit t level).Spends n.policy.attempts.toNat := by
  refine (Act.ofExcept_spends _).free_bind fun text => ?_
  exact (n.call_spends _ _).bind (c := 0) fun v => Act.ofExcept_spends _

end Node

/-! ### Sends -/

namespace Draft

lemma claim_spends (l : String) {fetch : Act Shared δ Int} (hf : fetch.Spends 0) :
    (NonceCache.claim l fetch).Spends 0 := by
  refine (Act.changeWith_spends _).free_bind fun r => ?_
  cases r with
  | some m => exact Act.ofExcept_spends _
  | none => exact hf.free_bind fun m => Act.changeWith_spends _

lemma renew_spends (l : String) (a : Int) :
    (NonceCache.renew l a : Act Shared δ Int).Spends 0 := by
  refine (Act.changeWith_spends _).free_bind fun r => ?_
  cases r with
  | some m | none => exact Act.ofExcept_spends _

lemma afterRejection_spends (l : String) (v : Value) :
    (afterRejection l v : Act Shared δ (Option Int)).Spends 0 := by
  rw [afterRejection]
  split
  · exact (Act.change_spends _).free_bind fun _ => Act.ofExcept_spends _
  · split
    · exact (renew_spends l _).free_bind fun _ => Act.ofExcept_spends _
    · exact Act.ofExcept_spends _

lemma keyClaim_spends (h : Holder) : (h.claim : Act Shared δ KeyPair).Spends 0 := by
  have hturn : (h.claimTurn : Act Shared δ Nat).Spends 0 :=
    (Act.change_spends _).free_bind fun s => Act.ofExcept_spends (.ok (s.turn h.seat))
  exact hturn.free_bind fun i => Act.ofExcept_spends (.ok (h.signer.key i))

variable [Span δ] (d : Draft) (n : Node δ)

lemma attempt_spends (h : Holder) (k : KeyPair) (p : Option Int)
    {otherwise : Error → Act Shared δ View.Outcome} {a : ℕ} (ho : ∀ e, (otherwise e).Spends a) :
    (d.attempt n h k p otherwise).Spends (n.policy.attempts.toNat + a) := by
  have hpost (m : Int) : (d.post n h k m otherwise).Spends (n.policy.attempts.toNat + a) := by
    refine (d.signFor_quiet n h k m).spends.free_bind fun t => ?_
    refine (n.submit_spends t d.level).andThen fun r => ?_
    cases r with
    | ok o => exact Act.ofExcept_spends _
    | error e => exact ho e
  cases p with
  | some m => exact hpost m
  | none =>
    have hlookup : (ledgerNonce n h k).Spends 0 :=
      (n.viewAccessKey_quiet _ _ _).spends.free_bind fun v => Act.ofExcept_spends _
    exact (claim_spends _ hlookup).free_bind hpost

/-- By induction on the attempts that are left. -/
theorem attempts_spends (h : Holder) (k : KeyPair) (spare : ℕ) (p : Option Int) :
    (d.attempts n h k spare p).Spends ((spare + 1) * n.policy.attempts.toNat) := by
  induction spare generalizing p with
  | zero =>
    rw [attempts, Nat.zero_add, Nat.one_mul]
    exact d.attempt_spends n h k p (a := 0) fun e => Act.ofExcept_spends _
  | succ left ih =>
    rw [attempts, Nat.succ_mul, Nat.add_comm]
    refine d.attempt_spends n h k p fun e => ?_
    cases e.rejection? with
    | none => exact Act.ofExcept_spends _
    | some v => exact (afterRejection_spends _ v).free_bind fun q => ih q

/-- A send posts at most as often as three submissions may. -/
theorem send_spends : (d.send n).Spends (3 * n.policy.attempts.toNat) :=
  (Act.ofExcept_spends d.ready).free_bind fun h =>
    (keyClaim_spends h).free_bind fun k => d.attempts_spends n h k spareAttempts none

end Draft

end LedgerClient
