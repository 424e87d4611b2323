import LedgerClient.Proofs.Nonce.Calls

/-!
Calls that drop a line, and calls that make it known again from what the ledger says. The nonces
handed out on the line go on increasing just if the ledger has caught up by then.
-/

namespace LedgerClient

variable {δ : Type} {l : String} {n a : Int}

/-- On a line that is not known, a nonce that is handed out goes by the ledger alone. -/
lemma NonceCache.run_unknown {c : NonceCache} {op : Step} (h : op.line? = some l)
    (hc : c.next? l = none) (hn : (c.run op).1 = some n) : op.ledger? = some (n - 1) := by
  cases op with
  | take l' =>
    obtain rfl := Option.some.inj h
    simp only [run, take, hc] at hn
    cases hn
  | settle l' a =>
    obtain rfl := Option.some.inj h
    simp only [run, settle, hc, issue, Option.some.injEq] at hn
    simp [Step.ledger?, ← hn]
  | reconcile l' a =>
    obtain rfl := Option.some.inj h
    simp only [run, reconcile, hc, Option.all_none, if_true] at hn
    split at hn
    · cases hn
    · simp only [issue, Option.some.injEq] at hn
      simp [Step.ledger?, ← hn]
  | forget l' | clear => cases h

namespace Move

variable {m : Move Shared δ}

/-- The line is made known, by a step that is told the ledger's nonce and hands out a nonce. -/
def Seeds (l : String) (a : Int) (m : Move Shared δ) : Prop :=
  ∃ op s, m = .change (Shared.perform op) s ∧ op.line? = some l ∧ op.ledger? = some a ∧
    s.nonces.next? l = none ∧ (s.nonces.run op).1.isSome

lemma Seeds.issues (h : m.Seeds l a) : m.Issues l (a + 1) := by
  obtain ⟨op, s, rfl, hl, ha, hs, hsome⟩ := h
  obtain ⟨n, hn⟩ := Option.isSome_iff_exists.1 hsome
  have hledger := Option.some.inj (ha.symm.trans (NonceCache.run_unknown hl hs hn))
  exact ⟨op, s, rfl, hl, by rw [hn, hledger, Int.sub_add_cancel]⟩

/-- A nonce that is handed out goes by the line, or else by the ledger. -/
lemma Issues.source (h : m.Issues l n) {s : Shared} (hs : m.Finds s) :
    (∃ k, s.nonces.next? l = some k ∧ k ≤ n) ∨ m.Seeds l (n - 1) := by
  have hk := (h.found hs).1
  obtain ⟨op, t, rfl, hl, hn⟩ := h
  obtain rfl : t = s := hs
  cases hc : t.nonces.next? l with
  | some k => exact .inl ⟨k, rfl, hk k hc⟩
  | none =>
    exact .inr ⟨op, t, rfl, hl, NonceCache.run_unknown hl hc hn, hc, by rw [hn]; rfl⟩

/-- The line stays as it was, or is dropped, or goes on by a nonce that is handed out. -/
def Tends (l : String) : Move Shared δ → Prop
  | change f s => (f s).nonces.next? l = s.nonces.next? l ∨ (f s).nonces.next? l = none ∨
    ∃ n, (change f s : Move Shared δ).Issues l n
  | _ => True

lemma Spares.tends (h : m.Spares) (l : String) : m.Tends l := by
  cases m with
  | change f s => exact .inl (congrArg (·.next? l) h)
  | exchange q r | pause d => trivial

lemma tends_perform (op : NonceCache.Step) (s : Shared) (l : String) :
    (change (Shared.perform op) s : Move Shared δ).Tends l := by
  by_cases hl : op.line? = some l
  · rcases NonceCache.run_spec op hl s.nonces with ⟨_, hr⟩ | ⟨n, hr, _⟩
    · exact .inl (congrArg (·.2.next? l) hr)
    · exact .inr (.inr ⟨n, op, s, rfl, hl, congrArg Prod.fst hr⟩)
  · by_cases hd : op.Drops l
    · refine .inr (.inl ?_)
      cases op with
      | forget l' =>
        obtain rfl : l' = l := hd
        exact s.nonces.next?_forget_self l'
      | clear => rfl
      | take | settle | reconcile => exact hd.elim
    · exact .inl (NonceCache.next?_run_of_ne hl hd s.nonces)

lemma Issues.tends (h : m.Issues l n) (l' : String) : m.Tends l' := by
  obtain ⟨op, s, rfl, -, -⟩ := h
  exact tends_perform op s l'

/-- What is behind the move on a line: what was there before, or a nonce that it handed out. -/
lemma Tends.next? (h : m.Tends l) {s : Shared} (hs : m.Finds s) {k : Int}
    (hk : (m.after s).nonces.next? l = some k) :
    s.nonces.next? l = some k ∨ ∃ n, m.Issues l n ∧ k = n + 1 := by
  cases m with
  | change f t =>
    obtain rfl : t = s := hs
    rcases h with h | h | ⟨n, hn⟩
    · exact .inl (h.symm.trans hk)
    · cases h.symm.trans hk
    · exact .inr ⟨n, hn, Option.some.inj (hk.symm.trans (hn.found rfl).2)⟩
  | exchange q r | pause d => exact .inl hk

end Move

/-! ### The order of the nonces of a line that may be dropped -/

section Order

variable {s : Shared} {ms : List (Move Shared δ)}

/-- Nothing lies at or behind a bound that the line and the ledger are past. -/
lemma Chained.issued_gt (hc : Chained s ms) (ht : ∀ m ∈ ms, m.Tends l) {b : Int}
    (hb : ∀ k, s.nonces.next? l = some k → b < k)
    (hs : ∀ m ∈ ms, ∀ a, m.Seeds l a → b ≤ a) : ∀ m ∈ ms, ∀ n, m.Issues l n → b < n := by
  induction ms generalizing s with
  | nil => simp
  | cons m ms ih =>
    obtain ⟨hm, hc⟩ := hc
    obtain ⟨hmt, ht⟩ := List.forall_mem_cons.1 ht
    obtain ⟨hms, hs⟩ := List.forall_mem_cons.1 hs
    have hfirst : ∀ n, m.Issues l n → b < n := by
      intro n hn
      rcases hn.source hm with ⟨k, hk, hkn⟩ | ha
      · exact Int.lt_of_lt_of_le (hb k hk) hkn
      · have := hms _ ha
        omega
    refine List.forall_mem_cons.2 ⟨hfirst, ih hc ht (fun k hk => ?_) hs⟩
    rcases hmt.next? hm hk with hk | ⟨n, hn, rfl⟩
    · exact hb k hk
    · have := hfirst n hn
      omega

/-- The nonces of a line increase where the ledger has caught up whenever the line is seeded. -/
theorem Chained.issued_increasing_of_seeds (hc : Chained s ms) (ht : ∀ m ∈ ms, m.Tends l)
    (hs : ms.Pairwise fun m m' => ∀ n a, m.Issues l n → m'.Seeds l a → n ≤ a) :
    ms.Pairwise fun m m' => ∀ a b, m.Issues l a → m'.Issues l b → a < b := by
  induction ms generalizing s with
  | nil => exact .nil
  | cons m ms ih =>
    obtain ⟨hm, hc⟩ := hc
    obtain ⟨_, ht⟩ := List.forall_mem_cons.1 ht
    obtain ⟨hms, hs⟩ := List.pairwise_cons.1 hs
    refine .cons (fun m' hm' a b ha hb => ?_) (ih hc ht hs)
    refine hc.issued_gt ht (fun k hk => ?_) (fun m hm a' => hms m hm a a' ha) m' hm' b hb
    obtain rfl := Option.some.inj ((ha.found hm).2.symm.trans hk)
    exact Int.lt_succ a

end Order

/-! ### Calls -/

namespace NonceCall

/-- The line that the call is for a nonce of. -/
def line? : NonceCall δ → Option String
  | next l _ | reconcile l _ => some l
  | _ => none

variable {c : NonceCall δ} {ms : List (Move Shared δ)} {r : Option (Except Error (Option Int))}

lemma Log.tends (h : c.Log ms r) (l : String) : ∀ m ∈ ms, m.Tends l := by
  cases h with
  | begun c => simp
  | known hi | reconciled hi _ => simpa using hi.tends l
  | refused hm _ => simpa using hm.tends l
  | fetching hm _ hs | failed hm _ hs =>
    exact List.forall_mem_cons.2 ⟨hm.tends l, fun m h => (hs m h).tends l⟩
  | fetched hm _ hs hi _ =>
    refine List.forall_mem_cons.2 ⟨hm.tends l, fun m h => ?_⟩
    rcases List.mem_append.1 h with h | h
    · exact (hs m h).tends l
    · obtain rfl := List.mem_singleton.1 h
      exact hi.tends l
  | forgotten l' s => simpa using Move.tends_perform (.forget l') s l
  | cleared s => simpa using Move.tends_perform .clear s l

/-- A nonce that a call has returned was handed out to it. -/
lemma Log.issued (h : c.Log ms (some (.ok (some n)))) (hl : c.line? = some l) :
    ∃ m ∈ ms, m.Issues l n := by
  cases h with
  | known hi | reconciled hi _ =>
    obtain rfl := Option.some.inj hl
    exact ⟨_, List.mem_singleton_self _, hi⟩
  | fetched _ _ _ hi _ =>
    obtain rfl := Option.some.inj hl
    exact ⟨_, by simp, hi⟩

end NonceCall

section Reseeding

variable {ι : Type}

/-- Whatever made the line known had been told of a ledger that was not behind any nonce handed out
before. -/
def CaughtUp (l : String) (ms : List (ι × Move Shared δ)) : Prop :=
  ms.Pairwise fun p q => ∀ n a, p.2.Issues l n → q.2.Seeds l a → n ≤ a

lemma Ordered.caughtUp {ms : List (ι × Move Shared δ)} (h : Ordered l ms) : CaughtUp l ms :=
  h.imp fun hlt n a hn ha => by
    have := hlt n (a + 1) hn ha.issues
    omega

/-- **Reseeding.** Any calls, interleaved in any way from any state. The nonces handed out on a line
increase over the whole run, dropped or not, just if the ledger had caught up whenever the line was
made known. And if so, no two calls for a nonce of the line return the same one, and what a call
returns behind a rejection is above all that were handed out before it. -/
theorem reseeded_increase [DecidableEq ι] (calls : ι → NonceCall δ)
    (hf : ∀ i, (calls i).FetchSpares) (s : Shared) (ms : List (ι × Move Shared δ))
    (c : Company ι Shared δ (Except Error (Option Int)))
    (h : Company.Run ⟨s, fun i => (calls i).act.run⟩ ms c) (l : String) :
    (Ordered l ms ↔ CaughtUp l ms) ∧ (CaughtUp l ms →
      (∀ i j n, (calls i).line? = some l → (calls j).line? = some l →
        (c.party i).result? = some (.ok (some n)) → (c.party j).result? = some (.ok (some n)) →
        i = j) ∧
      ∀ i a n, calls i = .reconcile l a → (c.party i).result? = some (.ok (some n)) →
        ∃ before m behind, ms = before ++ (i, m) :: behind ∧ m.Issues l n ∧
          ∀ p ∈ before, ∀ k, p.2.Issues l k → k < n) := by
  have hlog : ∀ i, (calls i).Log (own i ms) (c.party i).result? :=
    fun i => (calls i).log (hf i) (h.own i)
  have ht : ∀ m ∈ ms.map Prod.snd, m.Tends l := by
    intro m hm
    obtain ⟨⟨i, m⟩, hp, rfl⟩ := List.mem_map.1 hm
    exact (hlog i).tends l m (mem_own.2 hp)
  have hup : CaughtUp l ms → Ordered l ms := fun hu =>
    List.pairwise_map.1 (h.chained.issued_increasing_of_seeds ht (List.pairwise_map.2 hu))
  have hissued : ∀ i n, (calls i).line? = some l → (c.party i).result? = some (.ok (some n)) →
      ∃ m, (i, m) ∈ ms ∧ m.Issues l n := by
    intro i n hl hr
    have hi := hlog i
    rw [hr] at hi
    obtain ⟨m, hm, hn⟩ := hi.issued hl
    exact ⟨m, mem_own.1 hm, hn⟩
  refine ⟨⟨Ordered.caughtUp, hup⟩, fun hu => ⟨fun i j n hi hj hri hrj => ?_,
    fun i a n hi hr => ?_⟩⟩
  · obtain ⟨m, hm, hn⟩ := hissued i n hi hri
    obtain ⟨m', hm', hn'⟩ := hissued j n hj hrj
    exact congrArg Prod.fst ((hup hu).unique hm hm' hn hn')
  · obtain ⟨m, hm, hn⟩ := hissued i n (by rw [hi]; rfl) hr
    obtain ⟨before, behind, rfl⟩ := List.append_of_mem hm
    refine ⟨before, m, behind, rfl, hn, fun p hp k hk => ?_⟩
    exact (List.pairwise_append.1 (hup hu)).2.2 p hp _ List.mem_cons_self k n hk hn

end Reseeding

/-- A call, then one that drops its line, then another one that is told the ledger's nonce anew. -/
def dropping (told : Int) : Fin 3 → NonceCall Unit
  | 0 => .next "alice.near:key" (pure 10)
  | 1 => .forget "alice.near:key"
  | 2 => .next "alice.near:key" (pure told)

/-- The calls one behind the other. -/
lemma dropping_run (told : Int) : ∃ ms c,
    Company.Run ⟨Shared.empty, fun i => (dropping told i).act.run⟩ ms c ∧
    (c.party 0).result? = some (.ok (some 11)) ∧
    (c.party 2).result? = some (.ok (some (told + 1))) ∧
    (11 ≤ told → CaughtUp "alice.near:key" ms) := by
  have hr : Company.Run ⟨Shared.empty, fun i => (dropping told i).act.run⟩ _ _ :=
    .change (i := 0) rfl <| .change (i := 0) rfl <| .change (i := 1) rfl <|
    .change (i := 2) rfl <| .change (i := 2) rfl <| .nil _
  have left {f s n} (h : (Move.change f s : Move Shared Unit).Issues "alice.near:key" n) :
      (f s).nonces.next? "alice.near:key" = some (n + 1) := (h.found rfl).2
  refine ⟨_, _, hr, rfl, rfl, fun htold => ?_⟩
  -- of the five moves the second one and the last one hand out a nonce
  refine .cons (fun q _ n a hn _ => by cases left hn) <| .cons ?_ <|
    .cons (fun q _ n a hn _ => by cases left hn) <|
    .cons (fun q _ n a hn _ => by cases left hn) <| List.pairwise_singleton ..
  intro q hq n a hn ha
  rw [List.mem_cons, List.mem_cons, List.mem_singleton] at hq
  rcases hq with rfl | rfl | rfl
  · cases left ha.issues
  · cases left ha.issues
  · have hn : 11 + 1 = n + 1 := Option.some.inj (left hn)
    have ha : told + 1 + 1 = a + 1 + 1 := Option.some.inj (left ha.issues)
    omega

/-- The ledger has caught up, and the second call goes on from there. -/
theorem dropping_increase : ∃ ms c,
    Company.Run ⟨Shared.empty, fun i => (dropping 11 i).act.run⟩ ms c ∧
    (∀ i, (dropping 11 i).FetchSpares) ∧ (c.party 0).result? = some (.ok (some 11)) ∧
    (c.party 2).result? = some (.ok (some 12)) ∧ Ordered "alice.near:key" ms := by
  obtain ⟨ms, c, hr, h0, h2, hu⟩ := dropping_run 11
  have hf : ∀ i, (dropping 11 i).FetchSpares
    | 0 | 1 | 2 => trivial
  exact ⟨ms, c, hr, hf, h0, h2,
    (reseeded_increase (dropping 11) hf _ ms c hr "alice.near:key").1.2 (hu (by decide))⟩

/-- The ledger's nonce is what it was, and both calls return the nonce behind it. -/
theorem dropping_repeats : ∃ ms c,
    Company.Run ⟨Shared.empty, fun i => (dropping 10 i).act.run⟩ ms c ∧
    (c.party 0).result? = some (.ok (some 11)) ∧ (c.party 2).result? = some (.ok (some 11)) := by
  obtain ⟨ms, c, hr, h0, h2, -⟩ := dropping_run 10
  exact ⟨ms, c, hr, h0, h2⟩

end LedgerClient
