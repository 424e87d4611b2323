import LedgerClient.Shared
import LedgerClient.Proofs.Dialogue.Moves
import Mathlib.Data.List.Pairwise

/-!
The nonces of one line. A step on the cache either leaves it as it was or hands out a nonce that
nothing on the line is ahead of. As long as a line is not dropped, whatever the order of the steps,
the nonces handed out on it increase.
-/

namespace LedgerClient

namespace NonceCache

/-- The line that a step hands out a nonce of. -/
def Step.line? : Step → Option String
  | take l | settle l _ | reconcile l _ => some l
  | forget _ | clear => none

/-- The ledger's nonce as the step was told it. -/
def Step.ledger? : Step → Option Int
  | settle _ a | reconcile _ a => some a
  | _ => none

/-- The step has no nonce to hand out: the line is not known, or the ledger has gone on to a nonce
that is too long to be put on record. -/
def Step.Withholds (c : NonceCache) : Step → Prop
  | take l => c.next? l = none
  | reconcile _ a => Text.isOverlong (a + 1) = true
  | _ => False

def Step.Drops (l : String) : Step → Prop
  | forget l' => l' = l
  | clear => True
  | _ => False

variable {c : NonceCache} {l l' : String} {n : Int} {op : Step}

lemma next?_forget_of_ne (h : l ≠ l') : (c.forget l').next? l = c.next? l := by
  obtain ⟨es⟩ := c
  simp only [next?, forget]
  induction es with
  | nil => rfl
  | cons e es ih =>
    obtain ⟨k, v⟩ := e
    by_cases hk : k = l'
    · have hl : (l == l') = false := by simpa using h
      simp [hk, List.lookup_cons, ih, hl]
    · simp [hk, List.lookup_cons, ih]

lemma next?_issue_of_ne (h : l ≠ l') : (c.issue l' n).2.next? l = c.next? l := by
  have hl : (l == l') = false := by simpa using h
  simp only [next?, issue, List.lookup_cons, hl]
  exact next?_forget_of_ne h

/-- The spec of a step: the cache stays as it is, or a nonce is handed out that is neither behind
the line nor behind the ledger. -/
theorem run_spec (op : Step) (h : op.line? = some l) (c : NonceCache) :
    (op.Withholds c ∧ c.run op = (none, c)) ∨
    ∃ n, c.run op = (some n, (c.issue l n).2) ∧ (∀ k, c.next? l = some k → k ≤ n) ∧
      ∀ a, op.ledger? = some a → a < n := by
  cases op with
  | take l' =>
    obtain rfl := Option.some.inj h
    cases hn : c.next? l' with
    | none => exact .inl ⟨hn, by simp only [run, take, hn]⟩
    | some k =>
      refine .inr ⟨max k 0, by simp only [run, take, hn]; rfl, ?_, by simp [Step.ledger?]⟩
      rintro _ ⟨⟩
      exact Int.le_max_left k 0
  | settle l' a =>
    obtain rfl := Option.some.inj h
    refine .inr ?_
    cases hn : c.next? l' with
    | none =>
      refine ⟨a + 1, by simp only [run, settle, hn]; rfl, by simp, ?_⟩
      rintro _ ⟨⟩
      exact Int.lt_succ a
    | some k =>
      refine ⟨max k (a + 1), by simp only [run, settle, hn]; rfl, ?_, ?_⟩
      · rintro _ ⟨⟩
        exact Int.le_max_left k (a + 1)
      · rintro _ ⟨⟩
        have := Int.le_max_right k (a + 1)
        omega
  | reconcile l' a =>
    obtain rfl := Option.some.inj h
    by_cases hahead : (c.next? l').all (· < a + 1)
    · cases ha : Text.isOverlong (a + 1) with
      | true => exact .inl ⟨ha, by rw [run, reconcile, if_pos hahead, if_pos ha]⟩
      | false =>
        refine .inr ⟨a + 1, ?_, fun k hk => ?_, ?_⟩
        · rw [run, reconcile, if_pos hahead, ha]
          rfl
        · rw [hk, Option.all_some, decide_eq_true_eq] at hahead
          exact Int.le_of_lt hahead
        · rintro _ ⟨⟩
          exact Int.lt_succ a
    · cases hn : c.next? l' with
      | none => exact absurd (by rw [hn]; rfl) hahead
      | some k =>
        rw [hn, Option.all_some, decide_eq_true_eq, Int.not_lt] at hahead
        refine .inr ⟨max k 0, ?_, ?_, ?_⟩
        · have hpast : ¬ k < a + 1 := by omega
          simp only [run, reconcile, hn, Option.all_some, decide_eq_true_eq, if_neg hpast, take]
          rfl
        · rintro _ ⟨⟩
          exact Int.le_max_left k 0
        · rintro _ ⟨⟩
          have := Int.le_max_left k 0
          omega
  | forget l' => cases h
  | clear => cases h

/-- The frame of a step: the lines that it neither names nor drops. -/
lemma next?_run_of_ne (hl : op.line? ≠ some l) (hd : ¬ op.Drops l) (c : NonceCache) :
    (c.run op).2.next? l = c.next? l := by
  cases ho : op.line? with
  | some l' =>
    have hne : l ≠ l' := fun h => hl (h ▸ ho)
    rcases run_spec op ho c with ⟨_, hr⟩ | ⟨n, hr, _, _⟩
    · rw [hr]
    · rw [hr, next?_issue_of_ne hne]
  | none => cases op with
    | forget l' => exact next?_forget_of_ne fun h => hd h.symm
    | clear => exact absurd trivial hd
    | take | settle | reconcile => cases ho

end NonceCache

/-- A step of the cache, as a change of what it is a part of. -/
def Shared.perform (op : NonceCache.Step) (s : Shared) : Shared :=
  (s.withNonces (·.run op)).2

/-- A claim step by step: a nonce that is at hand, or else the fetch and the second step. -/
lemma NonceCache.claim_run {δ : Type} (l : String) (fetch : Act Shared δ Int) :
    (NonceCache.claim l fetch).run =
      .step (Shared.perform (.take l)) fun s => match (s.nonces.run (.take l)).1 with
        | some n => .done (.ok n)
        | none => (do Act.changeWith (Shared.withNonces (·.settle l (← fetch)))).run := by
  refine congrArg (Dialogue.step _) (funext fun s => ?_)
  change ExceptT.bindCont _ (.ok (s.nonces.take l).1) = _
  change _ = match (s.nonces.take l).1 with
    | some n => _
    | none => _
  cases (s.nonces.take l).1 <;> rfl

/-- What a step hands out, or the error where it has nothing to hand out. -/
def NonceCache.Step.renewal (op : NonceCache.Step) (s : Shared) : Except Error (Option Int) :=
  match (s.nonces.run op).1 with
  | some n => .ok (some n)
  | none => .error .unwritten

/-- Behind the rejection of a nonce a single step is made. -/
lemma NonceCache.renew_run {δ : Type} (l : String) (a : Int) :
    (do return some (← NonceCache.renew l a) : Act Shared δ (Option Int)).run =
      .step (Shared.perform (.reconcile l a)) fun s => .done ((Step.reconcile l a).renewal s) := by
  refine congrArg (Dialogue.step _) (funext fun s => ?_)
  rw [Step.renewal]
  change Dialogue.bind (ExceptT.bindCont _ (.ok (s.nonces.reconcile l a).1)) _ =
    Dialogue.done (match (s.nonces.reconcile l a).1 with
      | some n => Except.ok (some n)
      | none => Except.error Error.unwritten)
  cases (s.nonces.reconcile l a).1 <;> rfl

/-! ### Moves on a line -/

namespace Move

variable {δ : Type} {l : String} {n a b : Int} {m : Move Shared δ}

/-- The move is a step of the cache that hands out a nonce of the line. -/
def Issues (l : String) (n : Int) (m : Move Shared δ) : Prop :=
  ∃ op s, m = .change (Shared.perform op) s ∧ op.line? = some l ∧ (s.nonces.run op).1 = some n

/-- The cache is the same behind the move. -/
def Spares : Move Shared δ → Prop
  | change f s => (f s).nonces = s.nonces
  | _ => True

/-- The line is as it was behind the move, or has gone on by a nonce that it was not ahead of. -/
def Raises (l : String) : Move Shared δ → Prop
  | change f s => (f s).nonces.next? l = s.nonces.next? l ∨
    ∃ n, (f s).nonces.next? l = some (n + 1) ∧ ∀ k, s.nonces.next? l = some k → k ≤ n
  | _ => True

lemma Spares.raises (h : m.Spares) (l : String) : m.Raises l := by
  cases m with
  | change f s => exact .inl (congrArg (·.next? l) h)
  | exchange q r | pause d => trivial

lemma raises_perform {op : NonceCache.Step} (h : ¬ op.Drops l) (s : Shared) :
    (change (Shared.perform op) s : Move Shared δ).Raises l := by
  by_cases hl : op.line? = some l
  · rcases NonceCache.run_spec op hl s.nonces with ⟨_, hr⟩ | ⟨n, hr, hk, _⟩
    · exact .inl (congrArg (·.2.next? l) hr)
    · refine .inr ⟨n, ?_, hk⟩
      rw [← s.nonces.next?_issue_self l n]
      exact congrArg (·.2.next? l) hr
  · exact .inl (NonceCache.next?_run_of_ne hl h s.nonces)

/-- What a move that hands out a nonce finds and leaves. -/
lemma Issues.found (h : m.Issues l n) {s : Shared} (hs : m.Finds s) :
    (∀ k, s.nonces.next? l = some k → k ≤ n) ∧ (m.after s).nonces.next? l = some (n + 1) := by
  obtain ⟨op, t, rfl, hl, hn⟩ := h
  obtain rfl : t = s := hs
  rcases NonceCache.run_spec op hl t.nonces with ⟨_, hr⟩ | ⟨n', hr, hk, _⟩
  · rw [hr] at hn
    cases hn
  · rw [hr] at hn
    obtain rfl := Option.some.inj hn
    refine ⟨hk, ?_⟩
    rw [← t.nonces.next?_issue_self l n']
    exact congrArg (·.2.next? l) hr

lemma Issues.unique (ha : m.Issues l a) (hb : m.Issues l b) : a = b := by
  have h : ∃ s, m.Finds s := by
    obtain ⟨op, s, rfl, -⟩ := ha
    exact ⟨s, rfl⟩
  obtain ⟨s, hs⟩ := h
  have := (ha.found hs).2.symm.trans (hb.found hs).2
  simpa using this

lemma Issues.raises (h : m.Issues l n) (l' : String) : m.Raises l' := by
  obtain ⟨op, s, rfl, hl, -⟩ := h
  refine raises_perform (fun hd => ?_) s
  cases op with
  | take | settle | reconcile => exact hd
  | forget | clear => cases hl

lemma Issues.spares (h : m.Issues l n) : ¬ m.Spares := by
  intro hs
  obtain ⟨op, s, rfl, hl, hn⟩ := h
  have hi : (change (Shared.perform op) s : Move Shared δ).Issues l n := ⟨op, s, rfl, hl, hn⟩
  obtain ⟨hk, ha⟩ := hi.found rfl
  have hc : (Shared.perform op s).nonces.next? l = s.nonces.next? l := congrArg (·.next? l) hs
  have := hk (n + 1) (hc ▸ ha)
  omega

end Move

/-- A claim ends with a nonce of the line in hand, or else it fails. -/
lemma NonceCache.claim_follows {δ η : Type} {l : String} {D : Dialogue.Discipline Shared δ η}
    {g : η} {fresh : Int → η} {fetch : Act Shared δ Int} {mid : η → Except Error Int → Prop}
    (hf : fetch.run.Follows D mid g) (hmid : ∀ g' r, mid g' r → g' = g)
    (hk : ∀ op s, (Shared.perform op s).nonces = s.nonces →
      D.rule g (.change (Shared.perform op) s) g)
    (hi : ∀ m n, m.Issues l n → D.rule g m (fresh n)) :
    (NonceCache.claim l fetch).run.Follows D (fun g' r => ∀ n, r = .ok n → g' = fresh n) g := by
  rw [claim_run]
  intro s
  dsimp only
  rcases run_spec (.take l) rfl s.nonces with ⟨_, hr⟩ | ⟨n, hr, _, _⟩
  · refine ⟨g, hk (.take l) s (congrArg Prod.snd hr), ?_⟩
    rw [hr]
    refine Act.follows_bind hf (fun g' a h => ?_) fun g' e _ n hn => by cases hn
    obtain rfl := hmid g' _ h
    intro s'
    rcases run_spec (.settle l a) rfl s'.nonces with ⟨_, hr'⟩ | ⟨n, hr', _, _⟩
    · cases hr'
    · refine ⟨fresh n, hi _ _ ⟨_, s', rfl, rfl, congrArg Prod.fst hr'⟩, fun m hm => ?_⟩
      have hn : (s'.nonces.settle l a).1 = n := Option.some.inj (congrArg Prod.fst hr')
      rw [← hn, ← Except.ok.inj hm]
      rfl
  · refine ⟨fresh n, hi _ _ ⟨_, s, rfl, rfl, congrArg Prod.fst hr⟩, ?_⟩
    rw [hr]
    rintro _ ⟨⟩
    rfl

/-! ### The order of the nonces of a line -/

variable {δ : Type} {l : String} {s : Shared} {ms : List (Move Shared δ)}

/-- Whatever is next on a line, no later nonce lies behind it. -/
lemma Chained.issued_ge (hc : Chained s ms) (hr : ∀ m ∈ ms, m.Raises l) {k : Int}
    (hk : s.nonces.next? l = some k) : ∀ m ∈ ms, ∀ n, m.Issues l n → k ≤ n := by
  induction ms generalizing s k with
  | nil => simp
  | cons m ms ih =>
    obtain ⟨hm, hc⟩ := hc
    obtain ⟨hr1, hr⟩ := List.forall_mem_cons.1 hr
    -- the line behind the move is at least where it was
    obtain ⟨k', hk', hle⟩ : ∃ k', (m.after s).nonces.next? l = some k' ∧ k ≤ k' := by
      cases m with
      | change f t =>
        obtain rfl : t = s := hm
        rcases hr1 with h | ⟨n, h, hn⟩
        · exact ⟨k, h.trans hk, Int.le_refl k⟩
        · exact ⟨n + 1, h, by have := hn k hk; omega⟩
      | exchange q r | pause d => exact ⟨k, hk, Int.le_refl k⟩
    intro m' hm' n hn
    rcases List.mem_cons.1 hm' with rfl | hm'
    · exact (hn.found hm).1 k hk
    · exact Int.le_trans hle (ih hc hr hk' m' hm' n hn)

/-- The nonces of a line increase over any chain of moves that does not drop it. -/
theorem Chained.issued_increasing (hc : Chained s ms) (hr : ∀ m ∈ ms, m.Raises l) :
    ms.Pairwise fun m m' => ∀ a b, m.Issues l a → m'.Issues l b → a < b := by
  induction ms generalizing s with
  | nil => exact .nil
  | cons m ms ih =>
    obtain ⟨hm, hc⟩ := hc
    obtain ⟨_, hr⟩ := List.forall_mem_cons.1 hr
    refine .cons (fun m' hm' a b ha hb => ?_) (ih hc hr)
    have := hc.issued_ge hr (ha.found hm).2 m' hm' b hb
    omega

section Ordered

variable {ι : Type}

/-- The nonces handed out on the line increase. -/
def Ordered (l : String) (ms : List (ι × Move Shared δ)) : Prop :=
  ms.Pairwise fun p q => ∀ a b, p.2.Issues l a → q.2.Issues l b → a < b

/-- A nonce is handed out by one move. -/
lemma Ordered.unique {ms : List (ι × Move Shared δ)} (h : Ordered l ms)
    {p q : ι × Move Shared δ} {n : Int} (hp : p ∈ ms) (hq : q ∈ ms) (hpn : p.2.Issues l n)
    (hqn : q.2.Issues l n) : p = q := by
  by_contra hne
  let Apart (p q : ι × Move Shared δ) : Prop := ∀ a, p.2.Issues l a → ¬ q.2.Issues l a
  have : Std.Symm Apart := ⟨fun _ _ h a ha hb => h a hb ha⟩
  have hd : ms.Pairwise Apart := h.imp fun hlt a ha hb => Int.lt_irrefl a (hlt a a ha hb)
  exact hd.forall hp hq hne n hpn hqn

end Ordered

end LedgerClient
