import LedgerClient.Node.Query
import LedgerClient.Proofs.Nonce.Lines

/-!
What calls to a node do. A call is a loop of attempts, and whatever an attempt keeps up that may be
repeated, the loop keeps up. Calls that submit nothing leave the nonces alone.
-/

namespace LedgerClient

open Dialogue

variable {σ δ α η : Type}

/-! ### Repeated attempts -/

namespace RetryPolicy

/-- An attempt leaves what another one may start from, or else the outcome of the whole. -/
def Leaves (I : η → Prop) (post : η → Except Error α → Prop) (g : η) : Except Error α → Prop
  | .ok a => post g (.ok a)
  | .error e => if e.shouldResend then I g else post g (.error e)

/-- The errors that the loop comes to on its own. -/
def Throws [Span δ] (p : RetryPolicy δ) (e : Error) : Prop :=
  (∃ latest, e = .request (.exhausted p.attempts) latest) ∨ ∃ n, p.delay n = .error e

/-- The same for a loop that ends within so many pauses. -/
def ThrowsWithin [Span δ] (p : RetryPolicy δ) (b : Nat) (e : Error) : Prop :=
  (∃ latest, e = .request (.exhausted p.attempts) latest) ∨
    ∃ n : Nat, n < b ∧ p.delay n = .error e

variable [Span δ] {D : Discipline σ δ η} {I : η → Prop} {post : η → Except Error α → Prop}
  {p : RetryPolicy δ} {f : Nat → Act σ δ α}

/-- By induction on the attempts that are left; behind the last one there is no pause. A failed
attempt leaves `J` behind, which only the first attempt may do without. -/
theorem attemptsFrom_follows_within {J : η → Prop} {b : Nat} (hJ : ∀ g, J g → I g)
    (hf : ∀ n g, I g → (f n).run.Follows D (Leaves J post) g)
    (hp : ∀ d g, J g → D.rule g (.pause d) g)
    (ht : ∀ e g, J g → p.ThrowsWithin b e → post g (.error e))
    (left n : Nat) (hn : n + left ≤ b + 1) (latest : Option Error) {g : η} (hg : I g)
    (hleft : left = 0 → J g) : (p.attemptsFrom f left n latest).run.Follows D post g := by
  induction left generalizing n latest g with
  | zero => exact ht _ g (hleft rfl) (.inl ⟨latest, rfl⟩)
  | succ left ih =>
    have hn' : n + 1 + left ≤ b + 1 := by omega
    rw [attemptsFrom]
    refine Act.follows_andThen (hf n g hg) fun g' r hr => ?_
    cases r with
    | ok a => exact hr
    | error e =>
      by_cases hs : e.shouldResend
      · have hg' : J g' := by simpa [Leaves, hs] using hr
        simp only [hs, Bool.not_true, Bool.false_eq_true, if_false]
        split
        · exact ih _ hn' _ (hJ g' hg') fun _ => hg'
        · split
          · rename_i hl _ e' hd
            exact ht e' g' hg' (.inr ⟨n, by omega, hd⟩)
          · rename_i d _
            exact ⟨g', hp d g' hg', ih _ hn' _ (hJ g' hg') fun _ => hg'⟩
      · have hpost : post g' (.error e) := by simpa [Leaves, hs] using hr
        simp only [hs, Bool.not_false, if_true]
        exact hpost

theorem attemptsFrom_follows
    (hf : ∀ n g, I g → (f n).run.Follows D (Leaves I post) g)
    (hp : ∀ d g, I g → D.rule g (.pause d) g)
    (ht : ∀ e g, I g → p.Throws e → post g (.error e))
    (left n : Nat) (latest : Option Error) {g : η} (hg : I g) :
    (p.attemptsFrom f left n latest).run.Follows D post g := by
  refine attemptsFrom_follows_within (fun _ => id) hf hp (fun e g hg h => ht e g hg ?_)
    left n (Nat.le_succ (n + left)) latest hg fun _ => hg
  exact h.imp_right fun ⟨k, _, hk⟩ => ⟨k, hk⟩

end RetryPolicy

/-! ### Calls -/

lemma Shared.dial_nonces (s : Shared) (i : Nat) (timeout : Value) :
    (s.dial i timeout).nonces = s.nonces := by
  simp only [dial]
  split <;> rfl

/-- The nonces stay as they are, and nothing is submitted. -/
def Move.Quiet : Move Shared δ → Prop
  | change f s => (f s).nonces = s.nonces
  | exchange q _ => q.method ≠ "send_tx"
  | pause _ => True

lemma Move.Quiet.spares {m : Move Shared δ} (h : m.Quiet) : m.Spares := by
  cases m with
  | change f s => exact h
  | exchange q r | pause d => trivial

/-- Nothing but quiet moves, and a result as described. -/
abbrev Act.Quiet (x : Act Shared δ α) (Q : Except Error α → Prop) : Prop :=
  x.run.Only Move.Quiet Q

lemma Act.Quiet.bind {β : Type} {x : Act Shared δ α} {f : α → Act Shared δ β}
    {P : Except Error α → Prop} {Q : Except Error β → Prop} (hx : x.Quiet P)
    (ho : ∀ a, P (.ok a) → (f a).Quiet Q) (he : ∀ e, P (.error e) → Q (.error e)) :
    (x >>= f).Quiet Q :=
  Act.follows_bind hx (fun _ a h => ho a h) fun _ e h => he e h

namespace Node

variable {D : Discipline Shared δ η} {g : η}

/-- The state in which an attempt dials numbers its request. -/
def request (n : Node δ) (s : Shared) (method : String) (params : Value) : Request :=
  ⟨n.url, n.allHeaders, (s.line n.line).lastId + 1, method, params⟩

/-- An attempt step by step: it ends before its request where the parameters cannot be written. -/
lemma attempt_run (n : Node δ) (method : String) (params : Value) :
    (n.attempt method params).run = .step (·.dial n.line n.timeout) fun s =>
      match Json.check params with
      | .ok _ => .ask (n.request s method params) fun r => .done (r.result n.url)
      | .error e => .done (.error e) := by
  rw [attempt]
  cases Json.check params <;> rfl

theorem attempt_follows {n : Node δ} {method : String} {params : Value}
    {post : η → Except Error Value → Prop}
    (hd : ∀ s, D.rule g (.change (·.dial n.line n.timeout) s) g)
    (hf : ∀ f, Json.check params = .error (.host f) → post g (.error (.host f)))
    (hq : ∀ q r, q.method = method → q.params = params → D.sound r →
      ∃ g', D.rule g (.exchange q r) g' ∧ post g' (r.result n.url)) :
    (n.attempt method params).run.Follows D post g := by
  rw [attempt_run]
  intro s
  refine ⟨g, hd s, ?_⟩
  cases hc : Json.check params with
  | ok _ => exact fun r hr => hq _ r rfl rfl hr
  | error e =>
    obtain ⟨f, rfl⟩ := Json.check_error hc
    exact hf f hc

variable [Span δ]

/-- A call that submits nothing is quiet. -/
theorem call_quiet (n : Node δ) {method : String} (h : method ≠ "send_tx") (params : Value) :
    (n.call method params).Quiet fun _ => True := by
  refine RetryPolicy.attemptsFrom_follows (I := fun _ => True) (fun _ g _ => ?_)
    (fun _ _ _ => trivial) (fun _ _ _ _ => trivial) _ _ _ trivial
  refine attempt_follows (fun s => s.dial_nonces _ _) (fun _ _ => trivial)
    fun q r hq _ _ => ⟨(), ?_, ?_⟩
  · exact fun hm => h (hq.symm.trans hm)
  · cases r.result n.url with
    | ok v => trivial
    | error e => simp [RetryPolicy.Leaves]

lemma block_quiet (n : Node δ) (ref : BlockRef) : (n.block ref).Quiet fun _ => True :=
  (n.call_quiet (by decide) _).bind (fun _ _ => trivial) fun _ _ => trivial

lemma viewAccessKey_quiet (n : Node δ) (account : AccountId) (key : String) (ref : BlockRef) :
    (n.viewAccessKey account key ref).Quiet fun _ => True :=
  (n.call_quiet (by decide) _).bind (fun _ _ => trivial) fun _ _ => trivial

end Node

end LedgerClient
