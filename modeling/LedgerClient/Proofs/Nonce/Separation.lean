import LedgerClient.Proofs.Account.Grammar
import LedgerClient.Proofs.Dialogue.Alike
import LedgerClient.Proofs.Draft.Renewal
import LedgerClient.Proofs.Key.Spelling
import LedgerClient.Proofs.Nonce.Calls

/-!
Lines of nonces that do not interfere. An account and a key have a line of their own, since no
account has a colon in it. And the calls about one line go on as if all calls about other lines were
left out: they return the same, and fetch in the same cases.
-/

namespace LedgerClient

variable {ι δ : Type} {l : String}

/-! ### One line for each account and key -/

namespace AccountId

lemma colon_not_mem (a : AccountId) : ':' ∉ a.text.toList := by
  have hhex : ∀ {n ds}, HexDigits n ds → ':' ∉ ds := fun h hc => absurd (h.2 ':' hc) (by decide)
  have hname : ∀ {cs}, IsName cs → ':' ∉ cs := by
    rintro cs ⟨_, _, _, segs, _, hsegs, rfl⟩ hc
    obtain ⟨seg, hseg, hc⟩ := (mem_intercalate_iff (by decide)).1 hc
    exact absurd ((hsegs seg hseg).chars ':' hc) (by decide)
  rcases fault?_eq_none_iff_written.1 a.valid with (h | ⟨h, hds⟩ | h) | ⟨front, hfront, h⟩
  · exact hhex h
  · rw [hds, List.mem_append, not_or]
    exact ⟨by decide, hhex h⟩
  · exact hname h
  · rw [hfront, List.mem_append, not_or]
    exact ⟨fun hc => hname h (List.mem_append_left _ hc), by decide⟩

end AccountId

/-- What stands before and behind the first occurrence of an element is determined. -/
lemma eq_of_append_cons_eq {α : Type} {x : α} {as bs cs ds : List α} (ha : x ∉ as) (hb : x ∉ bs)
    (h : as ++ x :: cs = bs ++ x :: ds) : as = bs ∧ cs = ds := by
  induction as generalizing bs with
  | nil =>
    cases bs with
    | nil => exact ⟨rfl, List.tail_eq_of_cons_eq h⟩
    | cons b bs => exact absurd (List.head_eq_of_cons_eq h) (List.ne_of_not_mem_cons hb)
  | cons a as ih =>
    cases bs with
    | nil => exact absurd (List.head_eq_of_cons_eq h).symm (List.ne_of_not_mem_cons ha)
    | cons b bs =>
      obtain ⟨rfl, htail⟩ := List.cons.inj h
      obtain ⟨rfl, rfl⟩ :=
        ih (List.not_mem_of_not_mem_cons ha) (List.not_mem_of_not_mem_cons hb) htail
      exact ⟨rfl, rfl⟩

lemma NonceCache.line_eq_iff {a b : AccountId} {k k' : PublicKey} :
    line a.text k.text = line b.text k'.text ↔ a = b ∧ k = k' := by
  have htext (a : AccountId) (k : PublicKey) :
      (line a.text k.text).toList = a.text.toList ++ ':' :: k.text.toList := by
    simp [line]
  constructor
  · intro h
    have hlist := congrArg String.toList h
    rw [htext, htext] at hlist
    obtain ⟨ha, hk⟩ := eq_of_append_cons_eq a.colon_not_mem b.colon_not_mem hlist
    exact ⟨AccountId.ext (String.toList_inj.1 ha),
      PublicKey.faithful.injective (String.toList_inj.1 hk)⟩
  · rintro ⟨rfl, rfl⟩
    rfl

/-! ### States that agree on a line -/

def Shared.AgreeOn (l : String) (s t : Shared) : Prop := s.nonces.next? l = t.nonces.next? l

namespace NonceCache

lemma next?_issue_congr {c d : NonceCache} (n : Int) :
    (c.issue l n).2.next? l = (d.issue l n).2.next? l := by
  rw [next?_issue_self, next?_issue_self]

/-- A step on a line goes by that line alone. -/
lemma run_congr {c d : NonceCache} {op : Step} (hop : op.line? = some l)
    (h : c.next? l = d.next? l) :
    (c.run op).1 = (d.run op).1 ∧ (c.run op).2.next? l = (d.run op).2.next? l := by
  cases op with
  | take l' =>
    obtain rfl := Option.some.inj hop
    simp only [run, take, h]
    cases d.next? l' with
    | none => exact ⟨rfl, h⟩
    | some k => exact ⟨rfl, next?_issue_congr _⟩
  | settle l' a =>
    obtain rfl := Option.some.inj hop
    simp only [run, settle, h]
    cases d.next? l' with
    | none | some k => exact ⟨rfl, next?_issue_congr _⟩
  | reconcile l' a =>
    obtain rfl := Option.some.inj hop
    simp only [run, reconcile, take, h]
    split
    · cases Text.isOverlong (a + 1) with
      | true => exact ⟨rfl, h⟩
      | false => exact ⟨rfl, next?_issue_congr _⟩
    · cases d.next? l' with
      | none => exact ⟨rfl, h⟩
      | some k => exact ⟨rfl, next?_issue_congr _⟩
  | forget l' | clear => cases hop

end NonceCache

/-! ### Calls about one line -/

open Dialogue

namespace NonceCall

/-- To clear the cache is about no line in particular. -/
def About (l : String) : NonceCall δ → Prop
  | next l' _ | reconcile l' _ | forget l' => l' = l
  | clear => False

instance : DecidablePred (About l : NonceCall δ → Prop)
  | next .. | reconcile .. | forget _ => inferInstanceAs (Decidable (_ = _))
  | clear => inferInstanceAs (Decidable False)

/-- The line was not known to the first step of the call, so that it goes on to fetch. -/
def Fetches : NonceCall δ → List (Move Shared δ) → Prop
  | next l _, .change _ s :: _ => s.nonces.next? l = none
  | _, _ => False

/-- What fetching comes to goes by the replies, and not by what it finds. -/
def FetchSteady (l : String) : NonceCall δ → Prop
  | next _ fetch => fetch.Steady (Shared.AgreeOn l)
  | _ => True

lemma once_steady {op : NonceCache.Step} (hop : op.line? = some l) :
    (once op : Act Shared δ _).Steady (Shared.AgreeOn l) := by
  refine ⟨rfl, fun s t hst => ?_⟩
  obtain ⟨hissued, hnext⟩ := NonceCache.run_congr hop hst
  exact ⟨hnext, congrArg Except.ok hissued⟩

/-- The call goes alike from states that agree on its line. -/
lemma act_steady {c : NonceCall δ} (hc : c.About l) (hf : c.FetchSteady l) :
    c.act.Steady (Shared.AgreeOn l) := by
  cases c with
  | next l' fetch =>
    obtain rfl : l' = l := hc
    rw [Act.Steady, act_next]
    refine ⟨rfl, fun s t hst => ?_⟩
    have hline : (NonceCache.Step.take l').line? = some l' := rfl
    obtain ⟨hissued, hnext⟩ := NonceCache.run_congr hline hst
    refine ⟨hnext, ?_⟩
    dsimp only
    rw [hissued]
    cases (t.nonces.run (.take l')).1 with
    | some n => rfl
    | none =>
      refine Alike.bind hf fun r => ?_
      cases r with
      | ok a =>
        have hline : (NonceCache.Step.settle l' a).line? = some l' := rfl
        exact once_steady hline
      | error e => rfl
  | reconcile l' a =>
    obtain rfl : l' = l := hc
    rw [Act.Steady, act, NonceCache.renew_run]
    refine ⟨rfl, fun s t hst => ?_⟩
    have hline : (NonceCache.Step.reconcile l' a).line? = some l' := rfl
    obtain ⟨hissued, hnext⟩ := NonceCache.run_congr hline hst
    refine ⟨hnext, ?_⟩
    dsimp only
    rw [NonceCache.Step.renewal, hissued]
    rfl
  | forget l' =>
    obtain rfl : l' = l := hc
    refine ⟨rfl, fun s t _ => ⟨?_, rfl⟩⟩
    exact (s.nonces.next?_forget_self l').trans (t.nonces.next?_forget_self l').symm
  | clear => exact hc.elim

lemma fetches_congr {c : NonceCall δ} (hc : c.About l) {ms ns : List (Move Shared δ)}
    (h : List.Forall₂ (Move.Alike (Shared.AgreeOn l)) ms ns) : c.Fetches ns ↔ c.Fetches ms := by
  cases c with
  | next l' fetch =>
    obtain rfl : l' = l := hc
    cases h with
    | nil => rfl
    | @cons m m' ms ns hm _ =>
      cases m <;> cases m' <;> simp_all [Move.Alike, Fetches, Shared.AgreeOn]
  | reconcile l' a | forget l' | clear => cases h <;> rfl

end NonceCall

/-! ### Calls about other lines -/

namespace Move

variable {m : Move Shared δ} {l' : String} {n : Int}

/-- The line is as it was behind the move. -/
def Keeps (l : String) : Move Shared δ → Prop
  | change f s => (f s).nonces.next? l = s.nonces.next? l
  | _ => True

lemma Spares.keeps (h : m.Spares) (l : String) : m.Keeps l := by
  cases m with
  | change f s => exact congrArg (·.next? l) h
  | exchange q r | pause d => trivial

lemma keeps_perform {op : NonceCache.Step} (hl : op.line? ≠ some l) (hd : ¬ op.Drops l)
    (s : Shared) : (change (Shared.perform op) s : Move Shared δ).Keeps l :=
  NonceCache.next?_run_of_ne hl hd s.nonces

lemma Issues.keeps (h : m.Issues l' n) (hne : l' ≠ l) : m.Keeps l := by
  obtain ⟨op, s, rfl, hl, -⟩ := h
  refine keeps_perform (by simpa [hl] using hne) (fun hd => ?_) s
  cases op with
  | take | settle | reconcile => exact hd
  | forget | clear => cases hl

lemma Keeps.agreeOn (h : m.Keeps l) {s t : Shared} (hs : m.Finds s) (hst : Shared.AgreeOn l s t) :
    Shared.AgreeOn l (m.after s) t := by
  cases m with
  | change f s' =>
    obtain rfl : s' = s := hs
    exact h.trans hst
  | exchange q r | pause d => exact hst

end Move

/-- A call about another line leaves this one as it is. -/
lemma NonceCall.Log.keeps {c : NonceCall δ} {ms : List (Move Shared δ)}
    {r : Option (Except Error (Option Int))} (h : c.Log ms r) (hc : ¬ c.About l)
    (hclear : c ≠ .clear) : ∀ m ∈ ms, m.Keeps l := by
  cases h with
  | begun c => simp
  | known hi | reconciled hi _ => simpa using hi.keeps hc
  | refused hm _ => simpa using hm.keeps l
  | fetching hm _ hs | failed hm _ hs =>
    exact List.forall_mem_cons.2 ⟨hm.keeps l, fun m h => (hs m h).keeps l⟩
  | fetched hm _ hs hi _ =>
    refine List.forall_mem_cons.2 ⟨hm.keeps l, List.forall_mem_append.2 ⟨?_, ?_⟩⟩
    · exact fun m h => (hs m h).keeps l
    · simpa using hi.keeps hc
  | forgotten l' s =>
    have hd : ¬ (NonceCache.Step.forget l').Drops l := hc
    simpa using Move.keeps_perform (by simp [NonceCache.Step.line?]) hd s
  | cleared s => exact absurd rfl hclear

/-! ### Fetching from a node -/

lemma Node.attempt_steady (n : Node δ) (method : String) (params : Value) :
    (n.attempt method params).Steady (Shared.AgreeOn l) := by
  rw [Act.Steady, attempt_run]
  refine ⟨rfl, fun s t hst => ⟨?_, ?_⟩⟩
  · simpa only [Shared.AgreeOn, Shared.dial_nonces] using hst
  · cases Json.check params with
    | ok _ => exact ⟨rfl, fun r => rfl⟩
    | error e => rfl

/-- A node's answer does not depend on the number of the request, so that the nonce of a key on the
ledger is fetched alike whatever requests others have made. -/
lemma Draft.ledgerNonce_steady [Span δ] (n : Node δ) (h : Holder) (k : KeyPair) :
    (ledgerNonce n h k).Steady (Shared.AgreeOn l) :=
  ((RetryPolicy.attemptsFrom_steady _ (fun _ => n.attempt_steady _ _) _ _ _).bind
    fun _ => Act.steady_ofExcept _).bind fun _ => Act.steady_ofExcept _

lemma Draft.ledgerNonce_spares [Span δ] (n : Node δ) (h : Holder) (k : KeyPair) :
    (ledgerNonce n h k).run.Only Move.Spares fun _ => True := by
  have hquiet : (ledgerNonce n h k).Quiet fun _ => True :=
    (n.viewAccessKey_quiet _ _ _).bind (fun _ _ => trivial) fun _ _ => trivial
  exact (hquiet.follows fun _ => Move.Quiet.spares).imp fun _ _ _ => trivial

/-! ### Runs with and without the other lines -/

open NonceCall in
/-- **Lines do not interfere.** An account and a key have a line of their own. And of any calls,
interleaved in any way but with no clearing of the cache among their moves, those about one line
make their moves as well where all others are left out: in the same order and with the same replies,
and each of them returns the same, and fetches in the same cases. -/
theorem lines_independent [DecidableEq ι] :
    (∀ (a b : AccountId) (k k' : PublicKey),
      NonceCache.line a.text k.text = NonceCache.line b.text k'.text ↔ a = b ∧ k = k') ∧
    ∀ (calls : ι → NonceCall δ) (_ : ∀ i, (calls i).FetchSpares) (l : String)
      (_ : ∀ i, (calls i).About l → (calls i).FetchSteady l) (s t : Shared)
      (ms : List (ι × Move Shared δ)) (c : Company ι Shared δ (Except Error (Option Int))),
      Company.Run ⟨s, fun i => (calls i).act.run⟩ ms c → (∀ q ∈ ms, calls q.1 ≠ .clear) →
      Shared.AgreeOn l s t →
      ∃ ms' c', Company.Run ⟨t, fun i => (calls i).act.run⟩ ms' c' ∧
        (∀ q ∈ ms', (calls q.1).About l) ∧
        List.Forall₂ (AlikeTurns (Shared.AgreeOn l))
          (ms.filter fun q => (calls q.1).About l) ms' ∧
        ∀ i, (calls i).About l → (c'.party i).result? = (c.party i).result? ∧
          ((calls i).Fetches (own i ms') ↔ (calls i).Fetches (own i ms)) := by
  refine ⟨fun a b k k' => NonceCache.line_eq_iff, ?_⟩
  intro calls hspares l hsteady s t ms c hrun hclear hst
  have hkeeps : ∀ q ∈ ms, ¬ (calls q.1).About l → q.2.Keeps l := fun q hq habout =>
    ((calls q.1).log (hspares q.1) (hrun.own q.1)).keeps habout (hclear q hq) q.2
      (mem_own.2 hq)
  let started : Company ι Shared δ (Except Error (Option Int)) := ⟨t, fun i => (calls i).act.run⟩
  have hstate : Shared.AgreeOn l s started.state := hst
  have hstarted : ∀ i, (calls i).About l →
      (calls i).act.run.Alike (Shared.AgreeOn l) (started.party i) :=
    fun i hi => act_steady hi (hsteady i hi)
  obtain ⟨ms', c', hrun', hms, hparty⟩ := hrun.among (P := fun i => (calls i).About l)
    (R := Shared.AgreeOn l) (fun q hq habout _ _ => (hkeeps q hq habout).agreeOn) hstate hstarted
  have habout : ∀ q ∈ ms', (calls q.1).About l :=
    alike_forall (P := fun i => (calls i).About l) hms fun q hq =>
      of_decide_eq_true (List.mem_filter.1 hq).2
  refine ⟨ms', c', hrun', habout, hms, fun i hi => ⟨(hparty i hi).result?_eq.symm, ?_⟩⟩
  have hown := own_alike hms i
  rw [own_filter (P := fun i => (calls i).About l) hi] at hown
  exact fetches_congr hi hown

open Gifts

def bob : Holder := ⟨Signer.ofKey ⟨"bob.near", by decide +kernel⟩ secret .memory, 0⟩

/-- Two accounts with one key, whose nonces are fetched from the same node. -/
def neighbours (b : Bool) : NonceCall Float :=
  let h := if b then alice else bob
  .next (h.line (.ofSecret secret)) (Draft.ledgerNonce testNode h (.ofSecret secret))

lemma neighbours_run : ∃ ms c,
    Company.Run ⟨start, fun b => (neighbours b).act.run⟩ ms c ∧
      (c.party true).result? = some (.ok (some 42)) := by
  have hr : Company.Run ⟨start, fun b => (neighbours b).act.run⟩ _ _ :=
    .change (i := false) rfl <| .change (i := true) rfl <|
    .change (i := false) rfl <| .change (i := true) rfl <|
    .exchange (i := true) keyReply rfl <| .exchange (i := false) keyReply rfl <|
    .change (i := true) rfl <| .nil _
  exact ⟨_, _, hr, rfl⟩

/-- What the first account gets is what it gets where the other one is not there. -/
theorem neighbours_independent : ∃ ms c,
    Company.Run ⟨start, fun b => (neighbours b).act.run⟩ ms c ∧
    (∀ b, (neighbours b).FetchSpares) ∧
    (∀ b, (neighbours b).FetchSteady (alice.line (.ofSecret secret))) ∧
    (∀ q ∈ ms, neighbours q.1 ≠ .clear) ∧
    ∃ ms' c', Company.Run ⟨start, fun b => (neighbours b).act.run⟩ ms' c' ∧
      (∀ q ∈ ms', q.1 = true) ∧ (c'.party true).result? = some (.ok (some 42)) := by
  obtain ⟨ms, c, hr, hresult⟩ := neighbours_run
  have hspares : ∀ b, (neighbours b).FetchSpares := fun b => Draft.ledgerNonce_spares ..
  have hsteady : ∀ b, (neighbours b).FetchSteady (alice.line (.ofSecret secret)) :=
    fun b => Draft.ledgerNonce_steady ..
  have hclear : ∀ q ∈ ms, neighbours q.1 ≠ .clear := fun q _ h => by cases h
  have hother : ¬ (neighbours false).About (alice.line (.ofSecret secret)) := fun h =>
    absurd (NonceCache.line_eq_iff.1 h).1 (by decide +kernel)
  obtain ⟨ms', c', hr', habout, -, hown⟩ := lines_independent.2 neighbours hspares _
    (fun b _ => hsteady b) _ start ms c hr hclear rfl
  refine ⟨ms, c, hr, hspares, hsteady, hclear, ms', c', hr', fun q hq => ?_,
    (hown true rfl).1.trans hresult⟩
  cases hb : q.1 with
  | true => rfl
  | false => exact absurd (hb ▸ habout q hq) hother

end LedgerClient
