import LedgerClient.Proofs.Dialogue.Company
import LedgerClient.Proofs.Node.Moves
import LedgerClient.Proofs.Retry.Course

/-!
The numbers of requests. A request is posted in one move with the count that gives it its number,
and waits for its reply from then on. So however calls over one line interleave, they post their
requests in the order of their numbers.
-/

namespace LedgerClient

open Dialogue

variable {ι σ δ α : Type}

/-! ### Counting on a line -/

namespace Shared

variable {s : Shared} {i j : ℕ} {timeout : Value}

/-- Of the lines only the one that is dialled changes. -/
lemma dial_lines (s : Shared) (i : ℕ) (timeout : Value) :
    ∃ l, (s.dial i timeout).lines = s.lines.set i l ∧ l.lastId = (s.line i).lastId + 1 := by
  rw [dial]
  split <;> exact ⟨_, rfl, rfl⟩

@[simp] lemma dial_lines_length : (s.dial i timeout).lines.length = s.lines.length := by
  obtain ⟨l, hl, -⟩ := s.dial_lines i timeout
  rw [hl, List.length_set]

lemma dial_lastId (h : i < s.lines.length) :
    ((s.dial i timeout).line i).lastId = (s.line i).lastId + 1 := by
  obtain ⟨l, hl, hn⟩ := s.dial_lines i timeout
  rw [← hn, line, hl]
  simp [h]

lemma dial_line_of_ne (h : j ≠ i) : (s.dial i timeout).line j = s.line j := by
  obtain ⟨l, hl, -⟩ := s.dial_lines i timeout
  rw [line, line, hl]
  simp [List.getElem?_set_ne h.symm]

lemma lastId_le_dial (h : i < s.lines.length) (j : ℕ) :
    (s.line j).lastId ≤ ((s.dial i timeout).line j).lastId := by
  by_cases hj : j = i
  · subst hj
    rw [dial_lastId h]
    exact Nat.le_succ _
  · rw [dial_line_of_ne hj]

end Shared

/-! ### What a call posts -/

/-- The request that waits for its reply. -/
def Dialogue.posted? : Dialogue σ δ α → Option Request
  | ask q _ => some q
  | _ => none

namespace Node

variable {n : Node δ} {method : String} {params : Value}

/-- How a call goes, with the request in hand that has been posted and not answered. -/
inductive Dials (n : Node δ) (method : String) (params : Value) :
    Option Request → Move Shared δ → Option Request → Prop
  | skip {e : Error} (s : Shared) : Json.check params = .error e →
    Dials n method params none (.change (·.dial n.line n.timeout) s) none
  | post (s : Shared) : Dials n method params none (.change (·.dial n.line n.timeout) s)
    (some (n.request s method params))
  | answer (q : Request) (r : Reply) : Dials n method params (some q) (.exchange q r) none
  | wait (d : δ) : Dials n method params none (.pause d) none

def dialing (n : Node δ) (method : String) (params : Value) :
    Discipline Shared δ (Option Request) := ⟨fun _ => True, n.Dials method params⟩

/-- What is left of a call with this in hand. -/
abbrev IsDialing (n : Node δ) (method : String) (params : Value) (h : Option Request)
    (x : Dialogue Shared δ (Except Error Value)) : Prop :=
  x.Follows (n.dialing method params) (fun g _ => g = none) h

/-- The request in hand is the one that waits. -/
lemma IsDialing.posted?_eq {h : Option Request} {x : Dialogue Shared δ (Except Error Value)}
    (hx : n.IsDialing method params h x) : x.posted? = h := by
  cases x with
  | done a => exact Eq.symm hx
  | step f k =>
    obtain ⟨_, hm, -⟩ := hx .empty
    cases hm with
    | skip | post => rfl
  | ask q k =>
    obtain ⟨_, hm, -⟩ := hx .timedOut trivial
    cases hm
    rfl
  | pause d k =>
    obtain ⟨_, hm, -⟩ := hx
    cases hm
    rfl

end Node

/-! ### Calls that interleave -/

namespace Company

variable [DecidableEq ι]

/-- A run, and the requests in the order in which they are posted: each with the move behind which
it waits for its reply. -/
inductive Posts : Company ι σ δ α → List (ι × Move σ δ) → List (ι × Request) →
    Company ι σ δ α → Prop
  | nil (c : Company ι σ δ α) : Posts c [] [] c
  | cons {c d e : Company ι σ δ α} {i : ι} {m : Move σ δ} {ms : List (ι × Move σ δ)}
    {qs : List (ι × Request)} : Turn c (i, m) d → Posts d ms qs e →
    Posts c ((i, m) :: ms) ((d.party i).posted?.toList.map (i, ·) ++ qs) e

variable {c d : Company ι σ δ α} {ms : List (ι × Move σ δ)}

end Company

section Numbers

variable (nodes : ι → Node δ) (methods : ι → String) (params : ι → Value)

/-- The requests are those of the calls. Each has a number above the last one of its line at first,
and above those of the requests that were posted before it over the same line. -/
structure Numbers (s : Shared) (qs : List (ι × Request)) : Prop where
  calls : ∀ i q, (i, q) ∈ qs → q.method = methods i ∧ q.params = params i
  above : ∀ i q, (i, q) ∈ qs → (s.line (nodes i).line).lastId < q.id
  ascend : qs.Pairwise fun a b => (nodes a.1).line = (nodes b.1).line → a.2.id < b.2.id

variable {nodes methods params} {s : Shared} {qs : List (ι × Request)}

/-- Counting on the lines leaves less room for the numbers of requests to come. -/
lemma Numbers.mono {t : Shared} (h : Numbers nodes methods params t qs)
    (hs : ∀ i, (s.line (nodes i).line).lastId ≤ (t.line (nodes i).line).lastId) :
    Numbers nodes methods params s qs where
  calls := h.calls
  above i q hq := (hs i).trans_lt (h.above i q hq)
  ascend := h.ascend

/-- One more request in front, with the number that its line has just got to. -/
lemma Numbers.cons {t : Shared} {i : ι} {q : Request} (h : Numbers nodes methods params t qs)
    (hm : q.method = methods i ∧ q.params = params i)
    (hs : ∀ j, (s.line (nodes j).line).lastId ≤ (t.line (nodes j).line).lastId)
    (hlt : (s.line (nodes i).line).lastId < q.id) (hle : q.id ≤ (t.line (nodes i).line).lastId) :
    Numbers nodes methods params s ((i, q) :: qs) where
  calls j r hr := by
    rcases List.mem_cons.1 hr with he | hr
    · obtain ⟨rfl, rfl⟩ := Prod.mk.inj he
      exact hm
    · exact h.calls j r hr
  above j r hr := by
    rcases List.mem_cons.1 hr with he | hr
    · obtain ⟨rfl, rfl⟩ := Prod.mk.inj he
      exact hlt
    · exact (hs j).trans_lt (h.above j r hr)
  ascend := by
    refine List.pairwise_cons.2 ⟨fun ⟨j, r⟩ hr hline => ?_, h.ascend⟩
    have := h.above j r hr
    rw [← hline] at this
    exact hle.trans_lt this

/-- Calls under way over lines that exist, each with the request in hand that it has posted. -/
structure Calling (nodes : ι → Node δ) (methods : ι → String) (params : ι → Value)
    (hand : ι → Option Request) (c : Company ι Shared δ (Except Error Value)) : Prop where
  parties : ∀ i, (nodes i).IsDialing (methods i) (params i) (hand i) (c.party i)
  lines : ∀ i, (nodes i).line < c.state.lines.length

variable [DecidableEq ι]

variable {hand : ι → Option Request} {c d : Company ι Shared δ (Except Error Value)}

/-- The step lemma: a move changes what its own party has in hand, and the state. -/
lemma Calling.turn {i : ι} {m : Move Shared δ} (hc : Calling nodes methods params hand c)
    (ht : Company.Turn c (i, m) d) :
    ∃ h, m.Finds c.state ∧ d.state = m.after c.state ∧
      (nodes i).Dials (methods i) (params i) (hand i) m h ∧ (d.party i).posted? = h ∧
      Calling nodes methods params (Function.update hand i h) d := by
  cases ht with
  | @mk _ _ x hf hm =>
    have hsound : m.Meets ((nodes i).dialing (methods i) (params i)).sound := by cases m <;> trivial
    obtain ⟨h, hrule, hx⟩ := (hc.parties i).makes hm hsound
    have hlength : (m.after c.state).lines.length = c.state.lines.length := by
      generalize hand i = g at hrule
      cases hrule with
      | skip s _ | post s => exact Shared.dial_lines_length
      | answer q r | wait d => rfl
    refine ⟨h, hf, rfl, hrule, ?_, ⟨fun j => ?_, fun j => (hc.lines j).trans_eq hlength.symm⟩⟩
    · simpa only [Function.update_self] using Node.IsDialing.posted?_eq hx
    · by_cases hj : j = i
      · subst hj
        simpa only [Function.update_self] using hx
      · simpa only [Function.update_of_ne hj] using hc.parties j

/-- The run lemma. A move that dials counts on its line, and no other move counts. -/
lemma Calling.numbers {ms : List (ι × Move Shared δ)} (hc : Calling nodes methods params hand c)
    (hp : Company.Posts c ms qs d) : Numbers nodes methods params c.state qs := by
  induction hp generalizing hand with
  | nil c => exact ⟨by simp, by simp, .nil⟩
  | @cons c d e i m ms qs ht _ ih =>
    obtain ⟨h, hf, hd, hrule, hposted, hc'⟩ := hc.turn ht
    have hn := ih hc'
    rw [hd] at hn
    rw [hposted]
    generalize hand i = g at hrule
    cases hrule with
    | skip s _ =>
      obtain rfl : s = c.state := hf
      exact hn.mono fun j => Shared.lastId_le_dial (hc.lines i) _
    | post s =>
      obtain rfl : s = c.state := hf
      have hline := hc.lines i
      exact hn.cons ⟨rfl, rfl⟩ (fun j => Shared.lastId_le_dial hline _) (Nat.lt_succ_self _)
        (Shared.dial_lastId hline).ge
    | answer q r | wait p => exact hn

/-- What is answered was posted. -/
lemma Calling.posted {ms : List (ι × Move Shared δ)} (hc : Calling nodes methods params hand c)
    (hp : Company.Posts c ms qs d) {j : ι} {q : Request} {r : Reply}
    (hm : (j, .exchange q r) ∈ ms) : hand j = some q ∨ (j, q) ∈ qs := by
  induction hp generalizing hand with
  | nil c => cases hm
  | @cons c d e i m ms qs ht _ ih =>
    obtain ⟨h, -, -, hrule, hposted, hc'⟩ := hc.turn ht
    rw [hposted]
    rcases List.mem_cons.1 hm with he | hm
    · obtain ⟨rfl, rfl⟩ := Prod.mk.inj he
      generalize hand j = g at hrule
      cases hrule
      exact .inl rfl
    · rcases ih hc' hm with hj | hq
      · by_cases hji : j = i
        · subst hji
          rw [Function.update_self] at hj
          exact .inr (by simp [hj])
        · rw [Function.update_of_ne hji] at hj
          exact .inl hj
      · exact .inr (List.mem_append_right _ hq)

end Numbers

namespace Node

end Node

end LedgerClient
