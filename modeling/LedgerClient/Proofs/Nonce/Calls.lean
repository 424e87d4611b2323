import LedgerClient.Proofs.Dialogue.Company
import LedgerClient.Proofs.Nonce.Lines

/-!
Calls on one cache, in any number and interleaved in any way. A call is at its start, between its
first step and its second one, or over; what it returns is what its own step handed out.
-/

namespace LedgerClient

variable {δ : Type}

inductive NonceCall (δ : Type) where
  /-- The next nonce of a line; a line that is not known is fetched first. -/
  | next (line : String) (fetch : Act Shared δ Int)
  /-- A nonce above the one that a rejection named. -/
  | reconcile (line : String) (ledgers : Int)
  | forget (line : String)
  | clear

namespace NonceCall

/-- A single step of the cache, as a call. -/
def once (op : NonceCache.Step) : Act Shared δ (Option Int) :=
  Act.changeWith (Shared.withNonces (·.run op))

def act : NonceCall δ → Act Shared δ (Option Int)
  | next l fetch => do return some (← NonceCache.claim l fetch)
  | reconcile l a => do return some (← NonceCache.renew l a)
  | forget l => once (.forget l)
  | clear => once .clear

/-- The call may make the line unknown. -/
def Drops (l : String) : NonceCall δ → Prop
  | forget l' => l' = l
  | clear => True
  | _ => False

/-- Fetching leaves the cache alone. -/
def FetchSpares : NonceCall δ → Prop
  | next _ fetch => fetch.run.Only Move.Spares fun _ => True
  | _ => True

/-- What a call has done so far, and what it came to if it is over. -/
inductive Log : NonceCall δ → List (Move Shared δ) → Option (Except Error (Option Int)) → Prop
  | begun (c : NonceCall δ) : Log c [] none
  | known {l : String} {fetch : Act Shared δ Int} {m : Move Shared δ} {n : Int} :
    m.Issues l n → Log (next l fetch) [m] (some (.ok (some n)))
  | fetching {l : String} {fetch : Act Shared δ Int} {m : Move Shared δ}
    {ms : List (Move Shared δ)} {x : Dialogue Shared δ (Except Error Int)} :
    m.Spares → fetch.run.Runs ms x → (∀ m ∈ ms, m.Spares) → Log (next l fetch) (m :: ms) none
  | fetched {l : String} {fetch : Act Shared δ Int} {m m' : Move Shared δ}
    {ms : List (Move Shared δ)} {a n : Int} :
    m.Spares → fetch.run.Runs ms (.done (.ok a)) → (∀ m ∈ ms, m.Spares) → m'.Issues l n →
    a < n → Log (next l fetch) (m :: (ms ++ [m'])) (some (.ok (some n)))
  /-- A fetch that fails is all that comes of the call, and the cache is as it was. -/
  | failed {l : String} {fetch : Act Shared δ Int} {m : Move Shared δ}
    {ms : List (Move Shared δ)} {e : Error} :
    m.Spares → fetch.run.Runs ms (.done (.error e)) → (∀ m ∈ ms, m.Spares) →
    Log (next l fetch) (m :: ms) (some (.error e))
  | reconciled {l : String} {a n : Int} {m : Move Shared δ} :
    m.Issues l n → a < n → Log (reconcile l a) [m] (some (.ok (some n)))
  /-- The ledger's nonce is too long to go on from, and the cache is as it was. -/
  | refused {l : String} {a : Int} {m : Move Shared δ} :
    m.Spares → Text.isOverlong (a + 1) = true →
    Log (reconcile l a) [m] (some (.error .unwritten))
  | forgotten (l : String) (s : Shared) :
    Log (forget l) [.change (Shared.perform (.forget l)) s] (some (.ok none))
  | cleared (s : Shared) : Log clear [.change (Shared.perform .clear) s] (some (.ok none))

/-! ### The steps of a call -/

open Dialogue

/-- What is left of a call behind its first step. -/
def rest (l : String) (fetch : Act Shared δ Int) :
    Option Int → Dialogue Shared δ (Except Error (Option Int))
  | some n => done (.ok (some n))
  | none => fetch.run.bind fun
    | .ok a => step (Shared.perform (.settle l a)) fun s =>
      done (.ok (s.nonces.run (.settle l a)).1)
    | .error e => done (.error e)

lemma act_next (l : String) (fetch : Act Shared δ Int) :
    (next l fetch).act.run =
      step (Shared.perform (.take l)) fun s => rest l fetch (s.nonces.run (.take l)).1 := by
  change (NonceCache.claim l fetch).run.bind _ = _
  rw [NonceCache.claim_run]
  refine congrArg (step _) (funext fun s => ?_)
  dsimp only
  cases (s.nonces.run (.take l)).1 with
  | some n => rfl
  | none =>
    refine (bind_assoc fetch.run _ _).trans (congrArg fetch.run.bind (funext fun r => ?_))
    cases r <;> rfl

lemma runs_once {op : NonceCache.Step} {ms : List (Move Shared δ)}
    {y : Dialogue Shared δ (Except Error (Option Int))} (h : (once op).run.Runs ms y) :
    (ms = [] ∧ y.result? = none) ∨ ∃ s, ms = [.change (Shared.perform op) s] ∧
      y.result? = some (.ok (s.nonces.run op).1) := by
  rcases runs_step h with ⟨rfl, rfl⟩ | ⟨s, ms', rfl, hy⟩
  · exact .inl ⟨rfl, rfl⟩
  · obtain ⟨rfl, rfl⟩ := runs_done hy
    exact .inr ⟨s, rfl, rfl⟩

/-- The second step of a call, and what goes before it. -/
lemma log_fetch {l : String} {fetch : Act Shared δ Int} {m : Move Shared δ} (hm : m.Spares)
    (hf : fetch.run.Only Move.Spares fun _ => True) {ms : List (Move Shared δ)}
    {y : Dialogue Shared δ (Except Error (Option Int))} (h : (rest l fetch none).Runs ms y) :
    Log (next l fetch) (m :: ms) y.result? := by
  rcases runs_bind h with ⟨hy, x, hx⟩ | ⟨r, ms₁, ms₂, rfl, hx, hy⟩
  · rw [hy]
    exact .fetching hm hx (hf.runs hx).1
  · have hs := (hf.runs hx).1
    cases r with
    | error e =>
      obtain ⟨rfl, rfl⟩ := runs_done hy
      rw [List.append_nil]
      exact .failed hm hx hs
    | ok a =>
      rcases runs_step hy with ⟨rfl, rfl⟩ | ⟨s, ms', rfl, hz⟩
      · rw [List.append_nil]
        exact .fetching hm hx hs
      · obtain ⟨rfl, rfl⟩ := runs_done hz
        rcases NonceCache.run_spec (.settle l a) rfl s.nonces with ⟨_, hr⟩ | ⟨n, hr, _, ha⟩
        · cases hr
        · have hi : (.change (Shared.perform (.settle l a)) s : Move Shared δ).Issues l n :=
            ⟨_, s, rfl, rfl, congrArg Prod.fst hr⟩
          rw [result?, congrArg Prod.fst hr]
          exact .fetched hm hx hs hi (ha a rfl)

lemma log_next {l : String} {fetch : Act Shared δ Int}
    (hf : fetch.run.Only Move.Spares fun _ => True) {ms : List (Move Shared δ)}
    {y : Dialogue Shared δ (Except Error (Option Int))}
    (h : (next l fetch).act.run.Runs ms y) : Log (next l fetch) ms y.result? := by
  rw [act_next] at h
  rcases runs_step h with ⟨rfl, rfl⟩ | ⟨s, ms', rfl, hy⟩
  · exact .begun _
  rcases NonceCache.run_spec (.take l) rfl s.nonces with ⟨_, hr⟩ | ⟨n, hr, _, _⟩
  · have hm : (.change (Shared.perform (.take l)) s : Move Shared δ).Spares :=
      congrArg Prod.snd hr
    rw [hr] at hy
    exact log_fetch hm hf hy
  · rw [hr] at hy
    obtain ⟨rfl, rfl⟩ := runs_done hy
    exact .known ⟨_, s, rfl, rfl, congrArg Prod.fst hr⟩

lemma log_reconcile {l : String} {a : Int} {ms : List (Move Shared δ)}
    {y : Dialogue Shared δ (Except Error (Option Int))}
    (h : (reconcile l a).act.run.Runs ms y) : Log (reconcile l a) ms y.result? := by
  rw [act, NonceCache.renew_run] at h
  rcases runs_step h with ⟨rfl, rfl⟩ | ⟨s, ms', rfl, hy⟩
  · exact .begun _
  obtain ⟨rfl, rfl⟩ := runs_done hy
  rw [result?, NonceCache.Step.renewal]
  rcases NonceCache.run_spec (.reconcile l a) rfl s.nonces with ⟨hw, hr⟩ | ⟨n, hr, _, ha⟩
  · rw [hr]
    exact .refused (congrArg Prod.snd hr) hw
  · have hi : (.change (Shared.perform (.reconcile l a)) s : Move Shared δ).Issues l n :=
      ⟨_, s, rfl, rfl, congrArg Prod.fst hr⟩
    rw [hr]
    exact .reconciled hi (ha a rfl)

/-- The log of a call holds in any company, since it names no state but those that its own moves
met with. -/
theorem log (c : NonceCall δ) (hc : c.FetchSpares) {ms : List (Move Shared δ)}
    {y : Dialogue Shared δ (Except Error (Option Int))} (h : c.act.run.Runs ms y) :
    c.Log ms y.result? := by
  cases c with
  | next l fetch => exact log_next hc h
  | reconcile l a => exact log_reconcile h
  | forget l =>
    rcases runs_once h with ⟨rfl, hy⟩ | ⟨s, rfl, hy⟩
    · exact hy ▸ .begun _
    · exact hy ▸ .forgotten l s
  | clear =>
    rcases runs_once h with ⟨rfl, hy⟩ | ⟨s, rfl, hy⟩
    · exact hy ▸ .begun _
    · exact hy ▸ .cleared s

/-- A call that does not drop a line only raises it. -/
lemma Log.raises {c : NonceCall δ} {ms : List (Move Shared δ)}
    {r : Option (Except Error (Option Int))} (h : c.Log ms r) {l : String} (hd : ¬ c.Drops l) :
    ∀ m ∈ ms, m.Raises l := by
  cases h with
  | begun c => simp
  | known hi | reconciled hi _ => simpa using hi.raises l
  | refused hm _ => simpa using hm.raises l
  | fetching hm _ hs | failed hm _ hs =>
    exact List.forall_mem_cons.2 ⟨hm.raises l, fun m h => (hs m h).raises l⟩
  | fetched hm _ hs hi _ =>
    refine List.forall_mem_cons.2 ⟨hm.raises l, fun m h => ?_⟩
    rcases List.mem_append.1 h with h | h
    · exact (hs m h).raises l
    · obtain rfl := List.mem_singleton.1 h
      exact hi.raises l
  | forgotten l' s =>
    have hf : ¬ (NonceCache.Step.forget l').Drops l := hd
    simpa using Move.raises_perform hf s
  | cleared s => exact absurd trivial hd

end NonceCall

/-! ### Calls in company -/

variable {ι : Type} [DecidableEq ι]

open NonceCall in
/-- **Monotone nonces.** Any calls, interleaved in any way from any state: over every stretch of the
run in which no call drops a line, the nonces handed out on it increase. And each call returns the
nonce that its own step handed out, which is above what its fetch or a rejection named; a call that
fails, be it in its fetch or over a nonce of too many digits, leaves the cache as it was. -/
theorem nonces_increase (calls : ι → NonceCall δ) (hf : ∀ i, (calls i).FetchSpares) (s : Shared)
    (ms : List (ι × Move Shared δ)) (c : Company ι Shared δ (Except Error (Option Int)))
    (h : Company.Run ⟨s, fun i => (calls i).act.run⟩ ms c) :
    (∀ (l : String) (before stretch behind : List (ι × Move Shared δ)),
      ms = before ++ stretch ++ behind → (∀ p ∈ stretch, ¬ (calls p.1).Drops l) →
      stretch.Pairwise fun p q => ∀ a b, p.2.Issues l a → q.2.Issues l b → a < b) ∧
    ∀ i, (calls i).Log (own i ms) (c.party i).result? := by
  have hlog : ∀ i, (calls i).Log (own i ms) (c.party i).result? :=
    fun i => (calls i).log (hf i) (h.own i)
  refine ⟨fun l before stretch behind hms hd => ?_, hlog⟩
  -- the stretch is a chain of its own, from some state
  have hc := h.chained
  rw [hms, List.map_append, List.map_append] at hc
  obtain ⟨t, ht⟩ := hc.append.1.append.2
  have hr : ∀ m ∈ stretch.map Prod.snd, m.Raises l := by
    intro m hm
    obtain ⟨⟨i, m⟩, hp, rfl⟩ := List.mem_map.1 hm
    refine (hlog i).raises (hd _ hp) m (mem_own.2 ?_)
    rw [hms]
    exact List.mem_append_left _ (List.mem_append_right _ hp)
  exact List.pairwise_map.1 (ht.issued_increasing hr)

/-- Two calls that find the line unknown, of which one is told an older nonce than the other. -/
def racing (b : Bool) : NonceCall Unit := .next "alice.near:key" (pure (if b then 5 else 3))

theorem racing_increase :
    ∃ ms c, Company.Run ⟨Shared.empty, fun b => (racing b).act.run⟩ ms c ∧
      (c.party true).result? = some (.ok (some 6)) ∧
      (c.party false).result? = some (.ok (some 7)) ∧
      ms.Pairwise fun p q => ∀ a b, p.2.Issues "alice.near:key" a →
        q.2.Issues "alice.near:key" b → a < b := by
  have hr : Company.Run ⟨Shared.empty, fun b => (racing b).act.run⟩ _ _ :=
    .change (i := false) rfl <| .change (i := true) rfl <|
    .change (i := true) rfl <| .change (i := false) rfl <| .nil _
  refine ⟨_, _, hr, rfl, rfl, ?_⟩
  exact (nonces_increase racing (fun _ => trivial) _ _ _ hr).1 _ [] _ [] (by simp) fun _ _ h => h

end LedgerClient
