import LedgerClient.Proofs.Nonce.Reseeding
import Mathlib.Order.Interval.Set.Nat
import Mathlib.Data.Int.ConditionallyCompleteOrder
import Mathlib.Data.Int.Interval
import Mathlib.Data.Set.Card

/-!
The first use of a line by any number of calls at once. All of them may find the line unknown and
fetch; whoever is first makes it known, and from then on each step hands out just the nonce that is
next. So none is skipped, and none is handed out twice.
-/

namespace LedgerClient

variable {ι δ : Type} {l : String} {c : ℕ} {n : Int} {s : Shared}

/-- The nonce that is next on a line: on one that is not known, the one behind the ledger's. -/
def Shared.upcoming (l : String) (c : ℕ) (s : Shared) : Int := (s.nonces.next? l).getD (c + 1)

/-- The line, if it is known, is past the ledger's nonce. -/
def Shared.Past (l : String) (c : ℕ) (s : Shared) : Prop :=
  ∀ k, s.nonces.next? l = some k → (c : Int) < k

lemma Shared.Past.lt_upcoming (h : s.Past l c) : (c : Int) < s.upcoming l c := by
  rw [upcoming]
  cases hk : s.nonces.next? l with
  | none => exact Int.lt_succ _
  | some k => exact h k hk

namespace Move

variable {m : Move Shared δ}

/-- The move leaves the cache alone, or hands out the nonce that is next. -/
def Counts (l : String) (c : ℕ) (m : Move Shared δ) : Prop :=
  m.Spares ∨ ∃ n, m.Issues l n ∧ ∀ s, m.Finds s → s.Past l c → n = s.upcoming l c

/-- Nonces of a ledger are natural numbers, so that the bound of zero is never felt. -/
lemma counts_take (l : String) (c : ℕ) (s : Shared) :
    (change (Shared.perform (.take l)) s : Move Shared δ).Counts l c := by
  cases hk : s.nonces.next? l with
  | none => exact .inl (by simp only [Spares, Shared.perform, Shared.withNonces, NonceCache.run,
      NonceCache.take, hk])
  | some k =>
    refine .inr ⟨max k 0, ⟨_, s, rfl, rfl, ?_⟩, ?_⟩
    · simp only [NonceCache.run, NonceCache.take, hk, NonceCache.issue]
    · rintro _ rfl hpast
      have := hpast k hk
      rw [Shared.upcoming, hk, Option.getD_some]
      omega

lemma counts_settle (l : String) (c : ℕ) (s : Shared) :
    (change (Shared.perform (.settle l c)) s : Move Shared δ).Counts l c := by
  refine .inr ⟨_, ⟨_, s, rfl, rfl, rfl⟩, ?_⟩
  rintro _ rfl hpast
  cases hk : s.nonces.next? l with
  | none => simp only [Shared.upcoming, hk, NonceCache.issue, Option.getD_none]
  | some k =>
    have := hpast k hk
    simp only [Shared.upcoming, hk, NonceCache.issue, Option.getD_some]
    omega

lemma Spares.after_nonces (h : m.Spares) (hs : m.Finds s) : (m.after s).nonces = s.nonces := by
  cases m with
  | change f t =>
    obtain rfl : t = s := hs
    exact h
  | exchange q r | pause d => rfl

/-- A known line stays known. -/
lemma Raises.known (h : m.Raises l) (hs : m.Finds s) (hk : (s.nonces.next? l).isSome) :
    ((m.after s).nonces.next? l).isSome := by
  cases m with
  | change f t =>
    obtain rfl : t = s := hs
    rcases h with h | ⟨n, h, -⟩
    · exact (congrArg Option.isSome h).trans hk
    · exact congrArg Option.isSome h
  | exchange q r | pause d => exact hk

end Move

/-! ### Chains of moves -/

section Chain

variable {ms ns : List (Move Shared δ)} {m : Move Shared δ}

/-- What is handed out over a chain is a stretch of consecutive nonces, from the next one on. -/
theorem Chained.issued_consecutive (hc : Chained s ms) (hm : ∀ m ∈ ms, m.Counts l c)
    (hs : s.Past l c) : ∃ K : ℕ, ∀ n, (∃ m ∈ ms, m.Issues l n) ↔
      s.upcoming l c ≤ n ∧ n < s.upcoming l c + K := by
  induction ms generalizing s with
  | nil =>
    refine ⟨0, fun n => ⟨fun ⟨m, hm, _⟩ => absurd hm List.not_mem_nil, fun h => ?_⟩⟩
    omega
  | cons m ms ih =>
    obtain ⟨hfinds, hc⟩ := hc
    obtain ⟨hfirst, hrest⟩ := List.forall_mem_cons.1 hm
    rcases hfirst with hspares | ⟨n₀, hissues, hnext⟩
    · have hsame := hspares.after_nonces hfinds
      have hup : (m.after s).upcoming l c = s.upcoming l c := by
        rw [Shared.upcoming, hsame, Shared.upcoming]
      obtain ⟨K, hK⟩ := ih hc hrest fun k hk => hs k (by rwa [hsame] at hk)
      refine ⟨K, fun n => ?_⟩
      rw [← hup, ← hK n, List.exists_mem_cons_iff, or_iff_right fun h => h.spares hspares]
    · have hn₀ : n₀ = s.upcoming l c := hnext s hfinds hs
      have hafter := (hissues.found hfinds).2
      have hup : (m.after s).upcoming l c = n₀ + 1 := by
        rw [Shared.upcoming, hafter, Option.getD_some]
      obtain ⟨K, hK⟩ := ih hc hrest fun k hk => by
        have := hs.lt_upcoming
        obtain rfl := Option.some.inj (hafter.symm.trans hk)
        omega
      refine ⟨K + 1, fun n => ?_⟩
      have hone : m.Issues l n ↔ n = n₀ :=
        ⟨fun h => h.unique hissues, fun h => h ▸ hissues⟩
      rw [List.exists_mem_cons_iff, hK n, hone, hup, ← hn₀]
      omega

/-- Behind a nonce that was handed out, the line is known. -/
lemma Chained.finds_known (hc : Chained s (ms ++ m :: ns)) (hr : ∀ m ∈ ms, m.Raises l)
    (hk : (s.nonces.next? l).isSome ∨ ∃ m ∈ ms, ∃ n, m.Issues l n) :
    ∃ t, m.Finds t ∧ (t.nonces.next? l).isSome := by
  induction ms generalizing s with
  | nil =>
    rcases hk with hk | ⟨m, hm, -⟩
    · exact ⟨s, hc.1, hk⟩
    · exact absurd hm List.not_mem_nil
  | cons m' ms ih =>
    obtain ⟨hfinds, hc⟩ := hc
    obtain ⟨hr1, hr⟩ := List.forall_mem_cons.1 hr
    refine ih hc hr ?_
    rcases hk with hk | ⟨p, hp, n, hn⟩
    · exact .inl (hr1.known hfinds hk)
    · rcases List.mem_cons.1 hp with rfl | hp
      · exact .inl (congrArg Option.isSome (hn.found hfinds).2)
      · exact .inr ⟨p, hp, n, hn⟩

end Chain

/-! ### Calls for a nonce of the line -/

open Dialogue

namespace NonceCall

variable {fetch : Act Shared δ Int} {ms : List (Move Shared δ)}

/-- Each step of a call counts, if its fetch comes to the ledger's nonce or fails. -/
lemma next_counts (hf : fetch.run.Only Move.Spares fun r => ∀ a : Int, r = .ok a → a = c) :
    (next l fetch).act.run.Only (Move.Counts l c) fun _ => True := by
  rw [act_next]
  intro s
  refine ⟨(), Move.counts_take l c s, ?_⟩
  dsimp only
  cases (s.nonces.run (.take l)).1 with
  | some n => trivial
  | none =>
    refine (hf.follows (D := ⟨fun _ => True, fun _ m _ => m.Counts l c⟩) (h := ())
      fun _ => Or.inl).bind fun _ r hr => ?_
    cases r with
    | error e => trivial
    | ok a =>
      obtain rfl := hr.2 a rfl
      exact fun s => ⟨(), Move.counts_settle l c s, trivial⟩

/-- A call has returned a nonce just if the nonce was handed out to it. -/
lemma Log.returned_iff {r : Option (Except Error (Option Int))} (h : (next l fetch).Log ms r) :
    r = some (.ok (some n)) ↔ ∃ m ∈ ms, m.Issues l n := by
  constructor
  · rintro rfl
    exact h.issued rfl
  · rintro ⟨m, hm, hn⟩
    cases h with
    | begun => exact absurd hm List.not_mem_nil
    | known hi =>
      obtain rfl := List.mem_singleton.1 hm
      rw [hi.unique hn]
    | fetching hspares _ hs | failed hspares _ hs =>
      rcases List.mem_cons.1 hm with rfl | hm
      · exact absurd hspares hn.spares
      · exact absurd (hs m hm) hn.spares
    | fetched hspares _ hs hi _ =>
      rcases List.mem_cons.1 hm with rfl | hm
      · exact absurd hspares hn.spares
      · rcases List.mem_append.1 hm with hm | hm
        · exact absurd (hs m hm) hn.spares
        · obtain rfl := List.mem_singleton.1 hm
          rw [hi.unique hn]

/-- A call whose first step finds the line known is over with it. -/
lemma Log.known_first {r : Option (Except Error (Option Int))} {m : Move Shared δ}
    (h : (next l fetch).Log (m :: ms) r) {y : Dialogue Shared δ (Except Error (Option Int))}
    (hr : (next l fetch).act.run.Runs (m :: ms) y) {t : Shared} (ht : m.Finds t)
    (hk : (t.nonces.next? l).isSome) : ms = [] ∧ ∃ n, r = some (.ok (some n)) := by
  -- the first step is a claim, and on a known line it does not leave the cache alone
  have hissues : ∃ n, m.Issues l n := by
    rw [act_next] at hr
    rcases runs_step hr with ⟨hms, -⟩ | ⟨s, ms', hms, -⟩
    · cases hms
    · obtain ⟨rfl, -⟩ := List.cons.inj hms
      obtain rfl : s = t := ht
      rcases NonceCache.run_spec (.take l) rfl s.nonces with ⟨hnone, -⟩ | ⟨n, hrun, -, -⟩
      · rw [hnone] at hk
        cases hk
      · exact ⟨n, _, s, rfl, rfl, congrArg Prod.fst hrun⟩
  obtain ⟨n, hn⟩ := hissues
  refine ⟨?_, n, h.returned_iff.2 ⟨m, List.mem_cons_self, hn⟩⟩
  cases h with
  | known hi => rfl
  | fetching hspares _ _ | failed hspares _ _ | fetched hspares _ _ _ _ =>
    exact absurd hspares hn.spares

end NonceCall

/-! ### All calls -/

/-- A relation that is one to one has as many elements on the one side as on the other. -/
lemma ncard_dom {κ : Type} {r : ι → κ → Prop} (hf : ∀ i n n', r i n → r i n' → n = n')
    (hi : ∀ i j n, r i n → r j n → i = j) : {i | ∃ n, r i n}.ncard = {n | ∃ i, r i n}.ncard := by
  refine Set.ncard_congr (fun i hi => hi.choose) (fun i hi => ⟨i, hi.choose_spec⟩) ?_ ?_
  · intro i j hi' hj hij
    exact hi i j _ hi'.choose_spec (hij ▸ hj.choose_spec)
  · rintro n ⟨i, hn⟩
    exact ⟨i, ⟨n, hn⟩, hf i _ _ (Exists.choose_spec _) hn⟩

section Logs

variable [DecidableEq ι] {ms : List (ι × Move Shared δ)} {fetch : ι → Act Shared δ Int}
  {r : ι → Option (Except Error (Option Int))}

/-- Such calls only raise the line. -/
lemma raises_of_logs (hlog : ∀ i, (NonceCall.next l (fetch i)).Log (own i ms) (r i)) :
    ∀ m ∈ ms.map Prod.snd, m.Raises l := by
  intro m hm
  obtain ⟨⟨i, m⟩, hp, rfl⟩ := List.mem_map.1 hm
  exact (hlog i).raises (fun h => h) m (mem_own.2 hp)

/-- The nonces returned are those handed out. -/
lemma returned_iff_issued (hlog : ∀ i, (NonceCall.next l (fetch i)).Log (own i ms) (r i)) :
    (∃ i, r i = some (.ok (some n))) ↔ ∃ m ∈ ms.map Prod.snd, m.Issues l n := by
  simp only [(hlog _).returned_iff, mem_own, List.mem_map, Prod.exists, exists_eq_right]
  exact ⟨fun ⟨i, m, hm, hn⟩ => ⟨m, ⟨i, hm⟩, hn⟩, fun ⟨m, ⟨i, hm⟩, hn⟩ => ⟨i, m, hm, hn⟩⟩

/-- As many calls have returned as nonces have been returned. -/
lemma ncard_returned (hlog : ∀ i, (NonceCall.next l (fetch i)).Log (own i ms) (r i))
    (ho : Ordered l ms) : {i | ∃ n, r i = some (.ok (some n))}.ncard =
      {n | ∃ i, r i = some (.ok (some n))}.ncard := by
  refine ncard_dom (r := fun i n => r i = some (.ok (some n))) ?_ ?_
  · intro i n n' hn hn'
    simpa using hn.symm.trans hn'
  · intro i j n hi hj
    obtain ⟨m, hm, hn⟩ := (hlog i).returned_iff.1 hi
    obtain ⟨m', hm', hn'⟩ := (hlog j).returned_iff.1 hj
    exact congrArg Prod.fst (ho.unique (mem_own.1 hm) (mem_own.1 hm') hn hn')

end Logs

/-- **No nonce is skipped.** Any number of calls for a nonce of a line that is not known at first,
interleaved in any way; each fetch comes to the ledger's nonce `c` or fails. If `K` of them have
returned, they have returned the nonces from `c + 1` to `c + K`. And a call that starts behind the
first nonce that is handed out is over with its first step, so that it does not fetch. -/
theorem firstUse_consecutive [DecidableEq ι] (l : String) (c : ℕ) (fetch : ι → Act Shared δ Int)
    (hf : ∀ i, (fetch i).run.Only Move.Spares fun r => ∀ a : Int, r = .ok a → a = c) (s : Shared)
    (hs : s.nonces.next? l = none) (ms : List (ι × Move Shared δ))
    (d : Company ι Shared δ (Except Error (Option Int)))
    (h : Company.Run ⟨s, fun i => (NonceCall.next l (fetch i)).act.run⟩ ms d) :
    {n : Int | ∃ i, (d.party i).result? = some (.ok (some n))} =
        Set.Icc (c + 1 : Int) (c + {i | ∃ n, (d.party i).result? = some (.ok (some n))}.ncard) ∧
      ∀ before i m behind, ms = before ++ (i, m) :: behind → own i before = [] →
        (∃ q ∈ before, ∃ n, q.2.Issues l n) →
        own i ms = [m] ∧ ∃ n, (d.party i).result? = some (.ok (some n)) := by
  have hlog : ∀ i, (NonceCall.next l (fetch i)).Log (own i ms) (d.party i).result? := fun i =>
    NonceCall.log (.next l (fetch i)) ((hf i).imp fun _ _ _ => trivial) (h.own i)
  have hcounts : ∀ m ∈ ms.map Prod.snd, m.Counts l c := by
    intro m hm
    obtain ⟨⟨i, m⟩, hp, rfl⟩ := List.mem_map.1 hm
    exact ((NonceCall.next_counts (hf i)).runs (h.own i)).1 m (mem_own.2 hp)
  have hraises := raises_of_logs hlog
  refine ⟨?_, fun before i m behind hms hown hbefore => ?_⟩
  · obtain ⟨K, hK⟩ := h.chained.issued_consecutive hcounts fun k hk => by cases hs.symm.trans hk
    have hup : s.upcoming l c = c + 1 := by rw [Shared.upcoming, hs, Option.getD_none]
    have hreturned : {n : Int | ∃ i, (d.party i).result? = some (.ok (some n))} =
        Set.Icc (c + 1 : Int) (c + K) := by
      ext n
      rw [Set.mem_ofPred_eq, returned_iff_issued hlog, hK, hup, Set.mem_Icc]
      omega
    have hordered : Ordered l ms := List.pairwise_map.1 (h.chained.issued_increasing hraises)
    have hcard : {i | ∃ n, (d.party i).result? = some (.ok (some n))}.ncard = K := by
      rw [ncard_returned hlog hordered, hreturned, Set.ncard_eq_toFinset_card', Set.toFinset_Icc,
        Int.card_Icc]
      omega
    rw [hcard, hreturned]
  · have hchain := h.chained
    rw [hms, List.map_append, List.map_cons] at hchain
    obtain ⟨t, ht, hknown⟩ := hchain.finds_known (l := l)
      (fun m hm => hraises m (by rw [hms, List.map_append]; exact List.mem_append_left _ hm))
      (.inr ⟨_, List.mem_map_of_mem hbefore.choose_spec.1, hbefore.choose_spec.2⟩)
    have hi : own i ms = m :: own i behind := by
      rw [hms, own_append, hown, List.nil_append, own_cons_self]
    have hlogi := hlog i
    have hruni := h.own i
    rw [hi] at hlogi hruni
    obtain ⟨hbehind, hn⟩ := hlogi.known_first hruni ht hknown
    exact ⟨by rw [hi, hbehind], hn⟩

/-- Fetches of four calls; the third one fails. -/
def crowd : Fin 4 → Act Shared Unit Int
  | 2 => throw .noSigner
  | _ => pure 5

/-- Three calls find the line unknown before the second one makes it known; the last call comes
later, and the first one is the last to go on. -/
theorem crowd_consecutive : ∃ ms d,
    Company.Run ⟨Shared.empty, fun i => (NonceCall.next "alice.near:key" (crowd i)).act.run⟩ ms d ∧
    (∀ i, (crowd i).run.Only Move.Spares fun r => ∀ a : Int, r = .ok a → a = (5 : ℕ)) ∧
    Shared.empty.nonces.next? "alice.near:key" = none ∧
    (d.party 1).result? = some (.ok (some 6)) ∧ (d.party 3).result? = some (.ok (some 7)) ∧
    (d.party 0).result? = some (.ok (some 8)) ∧ (d.party 2).result? = some (.error .noSigner) ∧
    {n : Int | ∃ i, (d.party i).result? = some (.ok (some n))} = Set.Icc ((5 : ℕ) + 1 : Int)
      ((5 : ℕ) + {i | ∃ n, (d.party i).result? = some (.ok (some n))}.ncard) ∧
    ∃ m, own 3 ms = [m] := by
  have hbefore : Company.Run
      ⟨Shared.empty, fun i => (NonceCall.next "alice.near:key" (crowd i)).act.run⟩ _ _ :=
    .change (i := 0) rfl <| .change (i := 1) rfl <| .change (i := 2) rfl <|
    .change (i := 1) rfl <| .nil _
  have hr := hbefore.append (.change (i := 3) rfl <| .change (i := 0) rfl <| .nil _)
  have hf : ∀ i, (crowd i).run.Only Move.Spares fun r => ∀ a : Int, r = .ok a → a = (5 : ℕ)
    | 0 | 1 | 3 => fun a ha => (Except.ok.inj ha).symm
    | 2 => fun a ha => by cases ha
  obtain ⟨hall, hlater⟩ := firstUse_consecutive "alice.near:key" 5 crowd hf _ rfl _ _ hr
  refine ⟨_, _, hr, hf, rfl, rfl, rfl, rfl, rfl, hall, _, (hlater _ 3 _ _ rfl rfl ?_).1⟩
  exact ⟨_, .tail _ (.tail _ (.tail _ (.head _))), 6, .settle "alice.near:key" 5, _, rfl, rfl, rfl⟩

end LedgerClient
