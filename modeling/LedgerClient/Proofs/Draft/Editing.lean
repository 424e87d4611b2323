import Mathlib.Data.List.Nodup
import LedgerClient.Draft.Assemble
import LedgerClient.Proofs.Wire.Reads

/-!
Writing a draft through all that is handed out of it. The draft stands in one place: it is handed
out itself, each new call is handed out behind it, and all of them write there, in any order. A call
is held by its place; the place stays that of the call, and nothing else that is held writes there.
-/

namespace LedgerClient

/-! ### Parts of a call -/

def Action.IsCall (a : Action) : Prop := ∃ m bs g d, a = .direct (.functionCall m bs g d)

inductive CallPart where
  | arguments
  | gas
  | deposit
  deriving DecidableEq

/-- Both are calls, and alike in all but this part. -/
inductive CallPart.Only : CallPart → Action → Action → Prop
  | arguments (m bs bs' g d) :
    Only .arguments (.direct (.functionCall m bs g d)) (.direct (.functionCall m bs' g d))
  | gas (m bs g g' d) :
    Only .gas (.direct (.functionCall m bs g d)) (.direct (.functionCall m bs g' d))
  | deposit (m bs g d d') :
    Only .deposit (.direct (.functionCall m bs g d)) (.direct (.functionCall m bs g d'))

lemma CallPart.Only.isCall {p : CallPart} {a b : Action} (h : p.Only a b) : b.IsCall := by
  cases h <;> exact ⟨_, _, _, _, rfl⟩

namespace CallEdit

variable {e e' : CallEdit} {a : Action}

def part : CallEdit → CallPart
  | arguments _ | rawArguments _ => .arguments
  | gas _ => .gas
  | deposit _ => .deposit

/-- The action behind an edit. One that fails leaves it. -/
def on (e : CallEdit) (a : Action) : Action := (e.apply a).toOption.getD a

/-- Whether an edit fails is up to its value, and not to the call. -/
lemma apply_call (e : CallEdit) :
    (∃ r, ∀ m bs g d, e.apply (.direct (.functionCall m bs g d)) = .error r) ∨
    (e.part = .arguments ∧ ∃ bs', ∀ m bs g d, e.apply (.direct (.functionCall m bs g d)) =
      .ok (.direct (.functionCall m bs' g d))) ∨
    (e.part = .gas ∧ ∃ g', ∀ m bs g d, e.apply (.direct (.functionCall m bs g d)) =
      .ok (.direct (.functionCall m bs g' d))) ∨
    (e.part = .deposit ∧ ∃ d', ∀ m bs g d, e.apply (.direct (.functionCall m bs g d)) =
      .ok (.direct (.functionCall m bs g d'))) := by
  cases e with
  | arguments v =>
    cases hv : encodeArguments v with
    | error r => exact .inl ⟨r, fun _ _ _ _ => by simp only [apply, hv]; rfl⟩
    | ok bs' => exact .inr (.inl ⟨rfl, bs', fun _ _ _ _ => by simp only [apply, hv]; rfl⟩)
  | rawArguments bs' => exact .inr (.inl ⟨rfl, bs', fun _ _ _ _ => rfl⟩)
  | gas v =>
    cases hv : Gas.ofValue v with
    | error r => exact .inl ⟨r, fun _ _ _ _ => by simp only [apply, hv]; rfl⟩
    | ok g' => exact .inr (.inr (.inl ⟨rfl, g', fun _ _ _ _ => by simp only [apply, hv]; rfl⟩))
  | deposit v =>
    cases hv : Token.ofValue v with
    | error r => exact .inl ⟨r, fun _ _ _ _ => by simp only [apply, hv]; rfl⟩
    | ok d' => exact .inr (.inr (.inr ⟨rfl, d', fun _ _ _ _ => by simp only [apply, hv]; rfl⟩))

/-- What an edit writes to a call: its own part is what its value stands for. -/
inductive Writes : CallEdit → Action → Action → Prop
  | arguments {v : Value} {m : String} {bs bs' : Bytes} {g : Gas} {d : Token} :
    encodeArguments v = .ok bs' →
    Writes (.arguments v) (.direct (.functionCall m bs g d)) (.direct (.functionCall m bs' g d))
  | rawArguments {m : String} {bs bs' : Bytes} {g : Gas} {d : Token} :
    Writes (.rawArguments bs') (.direct (.functionCall m bs g d))
      (.direct (.functionCall m bs' g d))
  | gas {v : Value} {m : String} {bs : Bytes} {g g' : Gas} {d : Token} : Gas.ofValue v = .ok g' →
    Writes (.gas v) (.direct (.functionCall m bs g d)) (.direct (.functionCall m bs g' d))
  | deposit {v : Value} {m : String} {bs : Bytes} {g : Gas} {d d' : Token} :
    Token.ofValue v = .ok d' →
    Writes (.deposit v) (.direct (.functionCall m bs g d)) (.direct (.functionCall m bs g d'))

lemma apply_eq_ok_iff {b : Action} (ha : a.IsCall) : e.apply a = .ok b ↔ e.Writes a b := by
  obtain ⟨m, bs, g, d, rfl⟩ := ha
  constructor
  · intro h
    cases e with
    | arguments v =>
      obtain ⟨bs', hv, h⟩ := of_bind_ok h
      obtain rfl := Except.ok.inj h
      exact .arguments hv
    | rawArguments bs' =>
      obtain rfl := Except.ok.inj h
      exact .rawArguments
    | gas v =>
      obtain ⟨g', hv, h⟩ := of_bind_ok h
      obtain rfl := Except.ok.inj h
      exact .gas hv
    | deposit v =>
      obtain ⟨d', hv, h⟩ := of_bind_ok h
      obtain rfl := Except.ok.inj h
      exact .deposit hv
  · intro h
    cases h with
    | arguments hv | gas hv | deposit hv => simp only [apply, hv]; rfl
    | rawArguments => rfl

lemma apply_other (h : ¬ a.IsCall) : e.apply a = .ok a := by
  cases a with
  | delegated s => cases e <;> rfl
  | direct b =>
    cases b with
    | functionCall m bs g d => exact absurd ⟨m, bs, g, d, rfl⟩ h
    | _ => cases e <;> rfl

lemma on_of_ok {b : Action} (h : e.apply a = .ok b) : e.on a = b := by
  simp only [on, h, Except.toOption, Option.getD_some]

lemma on_of_error {r : Error} (h : e.apply a = .error r) : e.on a = a := by
  simp only [on, h, Except.toOption, Option.getD_none]

lemma on_other (h : ¬ a.IsCall) : e.on a = a :=
  on_of_ok (apply_other h)

/-- An edit of a call is one of its part. -/
lemma only_on (h : a.IsCall) : e.part.Only a (e.on a) := by
  obtain ⟨m, bs, g, d, rfl⟩ := h
  obtain ⟨r, hr⟩ | ⟨hp, bs', hb⟩ | ⟨hp, g', hg⟩ | ⟨hp, d', hd⟩ := e.apply_call
  · simp only [on, hr, Except.toOption, Option.getD_none]
    cases e.part <;> constructor
  · simp only [on, hb, hp, Except.toOption, Option.getD_some]
    constructor
  · simp only [on, hg, hp, Except.toOption, Option.getD_some]
    constructor
  · simp only [on, hd, hp, Except.toOption, Option.getD_some]
    constructor

/-- Edits of two parts commute. -/
lemma on_comm (h : e.part ≠ e'.part) (a : Action) : e'.on (e.on a) = e.on (e'.on a) := by
  by_cases ha : a.IsCall
  · obtain ⟨m, bs, g, d, rfl⟩ := ha
    obtain ⟨r, hr⟩ | ⟨hp, x, hx⟩ | ⟨hp, x, hx⟩ | ⟨hp, x, hx⟩ := e.apply_call <;>
      obtain ⟨r', hr'⟩ | ⟨hq, y, hy⟩ | ⟨hq, y, hy⟩ | ⟨hq, y, hy⟩ := e'.apply_call <;>
      simp_all [on, Except.toOption]
  · rw [on_other ha, on_other ha, on_other ha]

/-- An edit of a call leaves it open neither more nor less whether another one fails. -/
lemma apply_on (a : Action) :
    (e.apply (e'.on a)).map (fun _ => ()) = (e.apply a).map fun _ => () := by
  by_cases ha : a.IsCall
  · obtain ⟨m, bs, g, d, hb⟩ := (only_on (e := e') ha).isCall
    obtain ⟨m', bs', g', d', rfl⟩ := ha
    rw [hb]
    obtain ⟨r, hr⟩ | ⟨-, x, hx⟩ | ⟨-, x, hx⟩ | ⟨-, x, hx⟩ := e.apply_call
    · rw [hr, hr]
    all_goals rw [hx, hx]; rfl
  · rw [on_other ha]

end CallEdit

/-! ### What is written -/

/-- A draft while it is written. -/
structure Writing where
  draft : Draft
  /-- What has been handed out, in this order. -/
  holds : List Hold
  /-- The transactions that were made on the way. -/
  built : List Transaction

/-- What a step hands out anew, at this place. -/
def DraftStep.handed : DraftStep → Nat → List Hold
  | append (.call _), place => [.call place]
  | _, _ => []

namespace Writing

def start (d : Draft) : Writing := ⟨d, [.draft], []⟩

/-- What was handed out under a number. All other numbers stand for the draft. -/
def hold (w : Writing) (k : Nat) : Hold := w.holds.getD k .draft

inductive Op where
  /-- A step on what was handed out under a number. -/
  | step (k : Nat) (s : DraftStep)
  | build (key : Value) (nonce : Counter) (block : Value)

/-- What has been written stays, whatever fails behind it. -/
abbrev Program := ExceptT Error (StateM Writing)

/-- The writes of an operation in their order. -/
def Op.writes : Op → Program Unit
  | step _ (.append e) => do
    let place := (← get).draft.actions.length
    let a ← e.action
    modify fun w => { w with draft.actions := w.draft.actions ++ [a] }
    modify fun w => { w with holds := w.holds ++ DraftStep.handed (.append e) place }
  | step k (.edit e) => do
    match (← get).hold k with
    | .call place => match (← get).draft.actions[place]? with
      | some a =>
        let b ← e.apply a
        modify fun w => { w with draft.actions := w.draft.actions.set place b }
      | none => throw (.host .noMember)
    | .draft => throw (.host .noMember)
  | step _ (.signWith s) => modify fun w => { w with draft.chosen := s }
  | step _ (.waitUntil level) => modify fun w => { w with draft.level := level }
  | build key nonce block => do
    let t ← (← get).draft.build key nonce block
    modify fun w => { w with built := w.built ++ [t] }

def outcome (w : Writing) (o : Op) : Except Error Unit × Writing := (o.writes.run.run w).run

def result (w : Writing) (o : Op) : Except Error Unit := (w.outcome o).1

def after (w : Writing) (o : Op) : Writing := (w.outcome o).2

/-- Operations one after the other, also behind those that fail. -/
def run (w : Writing) (ops : List Op) : Writing := ops.foldl after w

variable {w : Writing}

@[simp] lemma run_nil : w.run [] = w := rfl

@[simp] lemma run_cons (o : Op) (ops : List Op) : w.run (o :: ops) = (w.after o).run ops := rfl

/-! ### What an operation does -/

lemma run_get (f : Writing → Program Unit) (w : Writing) :
    ((do f (← get) : Program Unit).run.run w) = (f w).run.run w := rfl

lemma step_append (d : Draft) (h : Hold) (e : Entry) :
    d.step h (.append e) = e.action.map fun a =>
      (((DraftStep.append e).handed d.actions.length).headD .draft,
        { d with actions := d.actions ++ [a] }) := by
  cases ha : e.action <;> cases e <;> simp only [Draft.step, Draft.append, ha] <;> rfl

lemma step_edit (d : Draft) (place : Nat) (e : CallEdit) :
    d.step (.call place) (.edit e) = match d.actions[place]? with
      | some a => (e.apply a).map fun b =>
        (.call place, { d with actions := d.actions.set place b })
      | none => .error (.host .noMember) := by
  simp only [Draft.step, Draft.edit]
  cases d.actions[place]? with
  | none => rfl
  | some a => cases he : e.apply a <;> simp only [he] <;> rfl

/-- The writes of a step leave the draft that the step makes, and those of one that fails leave what
was there before. -/
lemma outcome_step (w : Writing) (k : Nat) (s : DraftStep) :
    w.outcome (.step k s) = match w.draft.step (w.hold k) s with
      | .ok (_, d) => (.ok (), ⟨d, w.holds ++ s.handed w.draft.actions.length, w.built⟩)
      | .error r => (.error r, w) := by
  cases s with
  | append e =>
    rw [step_append]
    cases ha : e.action <;> simp only [outcome, Op.writes, ha] <;> rfl
  | edit e =>
    cases hk : w.hold k with
    | draft => simp only [outcome, Op.writes, run_get, hk]; rfl
    | call place =>
      rw [step_edit]
      cases ha : w.draft.actions[place]? with
      | none => simp only [outcome, Op.writes, run_get, hk, ha]; rfl
      | some a =>
        cases he : e.apply a <;>
          simp only [outcome, Op.writes, run_get, DraftStep.handed, List.append_nil, hk, ha, he] <;>
          rfl
  | signWith s => simp only [outcome, Op.writes, Draft.step, DraftStep.handed, List.append_nil]; rfl
  | waitUntil l =>
    simp only [outcome, Op.writes, Draft.step, DraftStep.handed, List.append_nil]
    rfl

lemma outcome_build (w : Writing) (key : Value) (nonce : Counter) (block : Value) :
    w.outcome (.build key nonce block) = match w.draft.build key nonce block with
      | .ok t => (.ok (), { w with built := w.built ++ [t] })
      | .error r => (.error r, w) := by
  cases h : w.draft.build key nonce block <;> simp only [outcome, Op.writes, run_get, h] <;> rfl

lemma after_of_error {o : Op} {r : Error} (h : w.result o = .error r) : w.after o = w := by
  cases o with
  | step k s =>
    rw [result, outcome_step] at h
    rw [after, outcome_step]
    cases hs : w.draft.step (w.hold k) s with
    | ok x => rw [hs] at h; cases h
    | error r => rfl
  | build key nonce block =>
    rw [result, outcome_build] at h
    rw [after, outcome_build]
    cases hb : w.draft.build key nonce block with
    | ok x => rw [hb] at h; cases h
    | error r => rfl

lemma after_append (w : Writing) (k : Nat) {e : Entry} {a : Action} (h : e.action = .ok a) :
    w.after (.step k (.append e)) = ⟨{ w.draft with actions := w.draft.actions ++ [a] },
      w.holds ++ (DraftStep.append e).handed w.draft.actions.length, w.built⟩ := by
  rw [after, outcome_step, step_append, h]
  rfl

lemma result_append (w : Writing) (k : Nat) (e : Entry) :
    w.result (.step k (.append e)) = e.action.map fun _ => () := by
  rw [result, outcome_step, step_append]
  cases e.action <;> rfl

lemma result_edit (w : Writing) (k : Nat) (e : CallEdit) :
    w.result (.step k (.edit e)) = match w.hold k with
      | .draft => .error (.host .noMember)
      | .call place => match w.draft.actions[place]? with
        | some a => (e.apply a).map fun _ => ()
        | none => .error (.host .noMember) := by
  rw [result, outcome_step]
  cases hk : w.hold k with
  | draft => rfl
  | call place =>
    simp only [step_edit]
    cases w.draft.actions[place]? with
    | none => rfl
    | some a => cases he : e.apply a <;> simp only [he] <;> rfl

/-- What an edit leaves that is made on what is in hand. -/
def editing (w : Writing) (e : CallEdit) : Hold → Writing
  | .draft => w
  | .call place => { w with draft.actions := w.draft.actions.modify place e.on }

lemma after_edit (w : Writing) (k : Nat) (e : CallEdit) :
    w.after (.step k (.edit e)) = w.editing e (w.hold k) := by
  rw [after, outcome_step]
  cases hk : w.hold k with
  | draft => rfl
  | call place =>
    simp only [step_edit, editing, List.modify_eq_set_getElem?]
    cases ha : w.draft.actions[place]? with
    | none => rfl
    | some a =>
      have hset : w.draft.actions.set place a = w.draft.actions := by
        obtain ⟨hp, rfl⟩ := List.getElem?_eq_some_iff.mp ha
        exact List.set_getElem_self hp
      cases he : e.apply a with
      | ok b => simp only [he, Except.map, DraftStep.handed, List.append_nil, CallEdit.on_of_ok he,
          Option.map_eq_map, Option.map_some, Option.getD_some]
      | error r => simp only [he, Except.map, CallEdit.on_of_error he, Option.map_eq_map,
          Option.map_some, Option.getD_some, hset]

/-! ### Holds -/

lemma handed_after (w : Writing) (o : Op) : w.holds <+: (w.after o).holds := by
  cases o with
  | step k s =>
    rw [after, outcome_step]
    split
    · exact List.prefix_append _ _
    · exact List.prefix_rfl
  | build key nonce block =>
    rw [after, outcome_build]
    split <;> exact List.prefix_rfl

lemma hold_mem {k p : Nat} (h : w.hold k = .call p) : w.holds[k]? = some (.call p) := by
  rw [hold, List.getD_eq_getElem?_getD] at h
  cases hk : w.holds[k]? with
  | none => rw [hk] at h; cases h
  | some x => rw [hk] at h; exact congrArg some h

lemma hold_of_mem {k p : Nat} (h : w.holds[k]? = some (.call p)) : w.hold k = .call p := by
  rw [hold, List.getD_eq_getElem?_getD, h, Option.getD_some]

/-- Each call in hand is a call of the draft, and no two holds are of one call. -/
structure Sound (w : Writing) : Prop where
  draft_mem : .draft ∈ w.holds
  nodup : w.holds.Nodup
  calls : ∀ p, .call p ∈ w.holds → ∃ a, w.draft.actions[p]? = some a ∧ a.IsCall

namespace Sound

lemma start (d : Draft) : (start d).Sound where
  draft_mem := List.mem_singleton_self _
  nodup := List.nodup_singleton _
  calls p h := by cases List.mem_singleton.mp h

lemma lt_length (h : w.Sound) {p : Nat} (hp : .call p ∈ w.holds) : p < w.draft.actions.length := by
  obtain ⟨a, ha, -⟩ := h.calls p hp
  exact (List.getElem?_eq_some_iff.mp ha).1

/-- The place of the next action is that of no hold. -/
lemma fresh (h : w.Sound) : .call w.draft.actions.length ∉ w.holds :=
  fun hp => Nat.lt_irrefl _ (h.lt_length hp)

lemma append (h : w.Sound) {e : Entry} {a : Action} (ha : e.action = .ok a) :
    Sound ⟨{ w.draft with actions := w.draft.actions ++ [a] },
      w.holds ++ (DraftStep.append e).handed w.draft.actions.length, w.built⟩ := by
  have hold : ∀ p, .call p ∈ w.holds →
      ∃ b, (w.draft.actions ++ [a])[p]? = some b ∧ b.IsCall := fun p hp => by
    rw [List.getElem?_append_left (h.lt_length hp)]
    exact h.calls p hp
  cases e with
  | call m =>
    obtain rfl := Except.ok.inj ha
    refine ⟨List.mem_append_left _ h.draft_mem, ?_, fun p hp => ?_⟩
    · rw [DraftStep.handed, List.nodup_append]
      refine ⟨h.nodup, List.nodup_singleton _, fun x hx y hy hxy => h.fresh ?_⟩
      rwa [← List.mem_singleton.mp hy, ← hxy]
    · rcases List.mem_append.mp hp with hp | hp
      · exact hold p hp
      · obtain rfl := Hold.call.inj (List.mem_singleton.mp hp)
        exact ⟨_, List.getElem?_concat_length, m, _, _, _, rfl⟩
  | _ =>
    simp only [DraftStep.handed, List.append_nil]
    exact ⟨h.draft_mem, h.nodup, hold⟩

lemma edit (h : w.Sound) (p : Nat) (e : CallEdit) : (w.editing e (.call p)).Sound := by
  refine ⟨h.draft_mem, h.nodup, fun q hq => ?_⟩
  obtain ⟨a, ha, hc⟩ := h.calls q hq
  simp only [editing, List.getElem?_modify, ha, Option.map_eq_map, Option.map_some]
  split
  · exact ⟨_, rfl, (CallEdit.only_on hc).isCall⟩
  · exact ⟨_, rfl, hc⟩

lemma after (h : w.Sound) (o : Op) : (w.after o).Sound := by
  cases o with
  | step k s => cases s with
    | append e =>
      cases ha : e.action with
      | error r =>
        rw [after_of_error (r := r) (by rw [result_append, ha]; rfl)]
        exact h
      | ok a => rw [after_append w k ha]; exact h.append ha
    | edit e =>
      rw [after_edit]
      cases w.hold k with
      | draft => exact h
      | call p => exact h.edit p e
    | signWith s => exact ⟨h.draft_mem, h.nodup, h.calls⟩
    | waitUntil l => exact ⟨h.draft_mem, h.nodup, h.calls⟩
  | build key nonce block =>
    rw [Writing.after, outcome_build]
    split
    · exact ⟨h.draft_mem, h.nodup, h.calls⟩
    · exact h

lemma run (h : w.Sound) (ops : List Op) : (w.run ops).Sound := by
  induction ops generalizing w with
  | nil => exact h
  | cons o ops ih => exact ih (h.after o)

end Sound

lemma handed_run (w : Writing) (ops : List Op) : w.holds <+: (w.run ops).holds := by
  induction ops generalizing w with
  | nil => exact List.prefix_rfl
  | cons o ops ih => exact (w.handed_after o).trans (ih _)

lemma built_after (w : Writing) (o : Op) : w.built <+: (w.after o).built := by
  cases o with
  | step k s =>
    rw [after, outcome_step]
    split <;> exact List.prefix_rfl
  | build key nonce block =>
    rw [after, outcome_build]
    split
    · exact List.prefix_append _ _
    · exact List.prefix_rfl

lemma built_run (w : Writing) (ops : List Op) : w.built <+: (w.run ops).built := by
  induction ops generalizing w with
  | nil => exact List.prefix_rfl
  | cons o ops ih => exact (w.built_after o).trans (ih _)

/-! ### Places -/

/-- The edit that is made through the hold under a number. -/
def Op.edit? (k : Nat) : Op → Option CallEdit
  | step k' (.edit e) => if k' = k then some e else none
  | _ => none

/-- What the edits through a hold make of an action, one after the other. -/
def edited (k : Nat) (ops : List Op) (a : Action) : Action :=
  (ops.filterMap (Op.edit? k)).foldl (fun a e => e.on a) a

lemma edited_cons (k : Nat) (o : Op) (ops : List Op) (a : Action) :
    edited k (o :: ops) a = edited k ops ((o.edit? k).elim a fun e => e.on a) := by
  rw [edited, List.filterMap_cons]
  cases o.edit? k <;> rfl

lemma action_edit (w : Writing) (k p : Nat) (e : CallEdit) :
    (w.after (.step k (.edit e))).draft.actions[p]? =
      w.draft.actions[p]?.map fun a => if w.hold k = .call p then e.on a else a := by
  rw [after_edit]
  cases hk : w.hold k with
  | draft => simp [editing]
  | call q =>
    simp only [editing, List.getElem?_modify, Hold.call.injEq]
    rfl

/-- Only edits write at a place that is taken. -/
lemma action_other {p : Nat} (hp : p < w.draft.actions.length) {o : Op}
    (ho : ∀ k e, o ≠ .step k (.edit e)) :
    (w.after o).draft.actions[p]? = w.draft.actions[p]? := by
  cases o with
  | step k s => cases s with
    | append e =>
      cases ha : e.action with
      | error r => rw [after_of_error (r := r) (by rw [result_append, ha]; rfl)]
      | ok a => rw [after_append w k ha]; exact List.getElem?_append_left hp
    | edit e => exact absurd rfl (ho k e)
    | signWith s => rfl
    | waitUntil l => rfl
  | build key nonce block =>
    rw [after, outcome_build]
    split <;> rfl

/-- A new hold is of the place behind all others. -/
lemma mem_after {p : Nat} {o : Op} (h : .call p ∈ (w.after o).holds) :
    .call p ∈ w.holds ∨ p = w.draft.actions.length := by
  cases o with
  | step k s =>
    rw [after, outcome_step] at h
    split at h
    · refine (List.mem_append.mp h).imp_right fun hp => ?_
      cases s with
      | append e => cases e with
        | call m => exact Hold.call.inj (List.mem_singleton.mp hp)
        | _ => cases hp
      | _ => cases hp
    · exact .inl h
  | build key nonce block =>
    rw [after, outcome_build] at h
    split at h <;> exact .inl h

namespace Sound

variable {k p : Nat}

lemma hold_iff (hw : w.Sound) (hk : w.holds[k]? = some (.call p)) (k' : Nat) :
    w.hold k' = .call p ↔ k' = k := by
  refine ⟨fun h => ?_, fun h => hold_of_mem (h ▸ hk)⟩
  have hlt := (List.getElem?_eq_some_iff.mp (hold_mem h)).1
  exact (List.getElem?_inj hlt hw.nodup).mp ((hold_mem h).trans hk.symm)

/-- Nothing but an edit through its own hold writes to a call. -/
lemma action_after (hw : w.Sound) (hk : w.holds[k]? = some (.call p)) (o : Op) :
    (w.after o).draft.actions[p]? =
      w.draft.actions[p]?.map fun a => (o.edit? k).elim a fun e => e.on a := by
  by_cases ho : ∃ k' e, o = .step k' (.edit e)
  · obtain ⟨k', e, rfl⟩ := ho
    simp only [action_edit, hw.hold_iff hk, Op.edit?]
    congr 1
    funext a
    split <;> rfl
  · push Not at ho
    have hnone : o.edit? k = none := by
      rcases o with ⟨k', _ | e | _ | _⟩ | _
      · rfl
      · exact absurd rfl (ho k' e)
      all_goals rfl
    rw [action_other (hw.lt_length (List.mem_of_getElem? hk)) ho, hnone]
    exact Option.map_id'.symm

/-- A call is what the edits through its hold have made of it. -/
lemma action_run (hw : w.Sound) (hk : w.holds[k]? = some (.call p)) (ops : List Op) :
    (w.run ops).draft.actions[p]? = w.draft.actions[p]?.map (edited k ops) := by
  induction ops generalizing w with
  | nil => exact Option.map_id'.symm
  | cons o ops ih =>
    have hk' : (w.after o).holds[k]? = some (.call p) := by
      obtain ⟨hs, heq⟩ := w.handed_after o
      rw [← heq, List.getElem?_append_left (List.getElem?_eq_some_iff.mp hk).1, hk]
    rw [run_cons, ih (hw.after o) hk', hw.action_after hk, Option.map_map]
    congr 1
    funext a
    exact (edited_cons k o ops a).symm

end Sound

/-- An action that is no call in hand stays as it is. -/
lemma action_settled {p : Nat} (hp : p < w.draft.actions.length) (hc : .call p ∉ w.holds)
    (ops : List Op) : (w.run ops).draft.actions[p]? = w.draft.actions[p]? := by
  induction ops generalizing w with
  | nil => rfl
  | cons o ops ih =>
    have hsame : (w.after o).draft.actions[p]? = w.draft.actions[p]? := by
      by_cases ho : ∃ k e, o = .step k (.edit e)
      · obtain ⟨k, e, rfl⟩ := ho
        have hk : w.hold k ≠ .call p := fun h => hc (List.mem_of_getElem? (hold_mem h))
        simp [action_edit, hk]
      · push Not at ho
        exact action_other hp ho
    have hp' : p < (w.after o).draft.actions.length := by
      rw [List.getElem?_eq_getElem hp] at hsame
      exact (List.getElem?_eq_some_iff.mp hsame).1
    have hc' : .call p ∉ (w.after o).holds := fun h => (mem_after h).elim hc (Nat.ne_of_lt hp)
    rw [run_cons, ih hp' hc', hsame]

/-! ### Edits beside one another -/

@[simp] lemma hold_editing (w : Writing) (e : CallEdit) (h : Hold) (k : Nat) :
    (w.editing e h).hold k = w.hold k := by
  cases h <;> rfl

/-- No edit keeps another one from being made, or from failing. -/
lemma result_after_edit (w : Writing) (k k' : Nat) (e e' : CallEdit) :
    (w.after (.step k (.edit e))).result (.step k' (.edit e')) =
      w.result (.step k' (.edit e')) := by
  have hhold : (w.after (.step k (.edit e))).hold k' = w.hold k' := by rw [after_edit, hold_editing]
  rw [result_edit, result_edit, hhold]
  cases w.hold k' with
  | draft => rfl
  | call p =>
    simp only [action_edit]
    cases w.draft.actions[p]? with
    | none => rfl
    | some a =>
      simp only [Option.map_some]
      split
      · exact CallEdit.apply_on a
      · rfl

lemma Sound.edits_comm (hw : w.Sound) {k k' : Nat} {e e' : CallEdit}
    (h : k ≠ k' ∨ e.part ≠ e'.part) :
    w.run [.step k (.edit e), .step k' (.edit e')] =
      w.run [.step k' (.edit e'), .step k (.edit e)] := by
  simp only [run_cons, run_nil, after_edit, hold_editing]
  cases hk : w.hold k with
  | draft => rfl
  | call p =>
    cases hk' : w.hold k' with
    | draft => rfl
    | call q =>
      have hmodify : (w.draft.actions.modify p e.on).modify q e'.on =
          (w.draft.actions.modify q e'.on).modify p e.on := by
        by_cases hpq : p = q
        · subst hpq
          -- One place is that of one hold, so the edits are of two parts.
          have hsame : k = k' := (hw.hold_iff (hold_mem hk') k).mp hk
          have hparts : e.part ≠ e'.part := h.resolve_left fun hne => hne hsame
          rw [List.modify_modify_eq, List.modify_modify_eq]
          congr 1
          exact funext (CallEdit.on_comm hparts)
        · exact List.modify_modify_ne _ _ _ hpq
      simp only [editing, hmodify]

/-! ### All operations -/

lemma build_actions {d : Draft} {key block : Value} {nonce : Counter} {t : Transaction}
    (h : d.build key nonce block = .ok t) : t.actions = d.actions := by
  rw [Draft.build] at h
  cases hr : d.ready with
  | error r => rw [hr] at h; cases h
  | ok x =>
    cases hk : PublicKey.ofValue key with
    | error r => rw [hr, hk] at h; cases h
    | ok k =>
      cases hb : Digest.ofValue block with
      | error r => rw [hr, hk, hb] at h; cases h
      | ok b =>
        rw [hr, hk, hb] at h
        obtain rfl := Except.ok.inj h
        rfl

/-- What a draft is like while it is written. -/
structure Local (w : Writing) : Prop where
  /-- The draft is the one that its own step makes. What the step gives to go on with has been
  handed out. -/
  step : ∀ k s, match w.draft.step (w.hold k) s with
    | .ok (h, d) => w.result (.step k s) = .ok () ∧ (w.after (.step k s)).draft = d ∧
        h ∈ (w.after (.step k s)).holds
    | .error r => w.result (.step k s) = .error r
  /-- What fails has written nothing. -/
  atomic : ∀ o r, w.result o = .error r → w.after o = w
  /-- One action comes behind the others, whatever is in hand. -/
  append : ∀ k e, w.result (.step k (.append e)) = .ok () → ∃ a, e.action = .ok a ∧
    (w.after (.step k (.append e))).draft = { w.draft with actions := w.draft.actions ++ [a] }
  /-- A call is handed out under the next number, as no other hold. From then on it is what the
  edits under this number make of it. -/
  call : ∀ k method ops,
    (w.after (.step k (.append (.call method)))).holds =
      w.holds ++ [.call w.draft.actions.length] ∧
    .call w.draft.actions.length ∉ w.holds ∧
    ((w.after (.step k (.append (.call method)))).run ops).draft.actions[w.draft.actions.length]? =
      some (edited w.holds.length ops
        (.direct (.functionCall method [] Gas.standard Amount.zero)))
  /-- An edit writes its value to the call that is in hand, and to its part of it. Only the value
  can make it fail. -/
  edit : ∀ k p, w.hold k = .call p → ∃ a, w.draft.actions[p]? = some a ∧ a.IsCall ∧ ∀ e,
    w.result (.step k (.edit e)) = (e.apply a).map (fun _ => ()) ∧ e.part.Only a (e.on a) ∧
    w.after (.step k (.edit e)) = { w with draft.actions := w.draft.actions.set p (e.on a) } ∧
    ∀ b, e.apply a = .ok b ↔ e.Writes a b
  /-- What has been handed out stays what it is. -/
  holds : ∀ ops, w.holds <+: (w.run ops).holds
  kept : ∀ k p ops, w.holds[k]? = some (.call p) →
    (w.run ops).draft.actions[p]? = w.draft.actions[p]?.map (edited k ops)
  settled : ∀ p ops, p < w.draft.actions.length → .call p ∉ w.holds →
    (w.run ops).draft.actions[p]? = w.draft.actions[p]?
  /-- A transaction has the actions that are there when it is made. -/
  build : ∀ key nonce block t, w.draft.build key nonce block = .ok t →
    t.actions = w.draft.actions ∧
    w.after (.build key nonce block) = { w with built := w.built ++ [t] }
  built : ∀ ops, w.built <+: (w.run ops).built
  /-- Edits of two calls, or of two parts of one, can change places. -/
  commute : ∀ k k' e e', k ≠ k' ∨ e.part ≠ e'.part →
    w.run [.step k (.edit e), .step k' (.edit e')] =
      w.run [.step k' (.edit e'), .step k (.edit e)]
  unhindered : ∀ k k' e e', (w.after (.step k (.edit e))).result (.step k' (.edit e')) =
    w.result (.step k' (.edit e'))

namespace Sound

/-- What a step gives to go on with has been handed out. -/
lemma step_mem (hw : w.Sound) {k : Nat} {s : DraftStep} {h : Hold} {d : Draft}
    (hs : w.draft.step (w.hold k) s = .ok (h, d)) :
    h ∈ w.holds ++ s.handed w.draft.actions.length := by
  cases s with
  | append e =>
    rw [step_append] at hs
    cases ha : e.action with
    | error r => rw [ha] at hs; cases hs
    | ok a =>
      rw [ha] at hs
      obtain ⟨rfl, -⟩ := Prod.mk.inj (Except.ok.inj hs)
      cases e with
      | call m => exact List.mem_append_right _ (List.mem_singleton_self _)
      | _ => exact List.mem_append_left _ hw.draft_mem
  | edit e =>
    cases hk : w.hold k with
    | draft => rw [hk] at hs; cases hs
    | call p =>
      rw [hk, step_edit] at hs
      cases ha : w.draft.actions[p]? with
      | none => rw [ha] at hs; cases hs
      | some a =>
        rw [ha] at hs
        cases he : e.apply a with
        | error r => simp only [he] at hs; cases hs
        | ok b =>
          simp only [he] at hs
          obtain ⟨rfl, -⟩ := Prod.mk.inj (Except.ok.inj hs)
          exact List.mem_append_left _ (List.mem_of_getElem? (hold_mem hk))
  | signWith x =>
    obtain ⟨rfl, -⟩ := Prod.mk.inj (Except.ok.inj hs)
    exact List.mem_append_left _ hw.draft_mem
  | waitUntil l =>
    obtain ⟨rfl, -⟩ := Prod.mk.inj (Except.ok.inj hs)
    exact List.mem_append_left _ hw.draft_mem

lemma isLocal (hw : w.Sound) : w.Local where
  step k s := by
    cases hs : w.draft.step (w.hold k) s with
    | error r => simp only [result, outcome_step, hs]
    | ok x =>
      obtain ⟨h, d⟩ := x
      simp only [result, Writing.after, outcome_step, hs]
      exact ⟨trivial, trivial, hw.step_mem hs⟩
  atomic _ _ h := after_of_error h
  append k e h := by
    rw [result_append] at h
    cases ha : e.action with
    | error r => rw [ha] at h; cases h
    | ok a => exact ⟨a, rfl, by rw [after_append w k ha]⟩
  call k m ops := by
    have hafter := after_append w k (e := .call m) rfl
    have hkept := (hw.after (.step k (.append (.call m)))).action_run (k := w.holds.length)
      (p := w.draft.actions.length) (by rw [hafter]; exact List.getElem?_concat_length) ops
    refine ⟨by rw [hafter]; rfl, hw.fresh, hkept.trans ?_⟩
    rw [hafter]
    exact congrArg (Option.map _) List.getElem?_concat_length
  edit k p hk := by
    obtain ⟨a, ha, hc⟩ := hw.calls p (List.mem_of_getElem? (hold_mem hk))
    refine ⟨a, ha, hc, fun e => ⟨?_, CallEdit.only_on hc, ?_, fun _ => CallEdit.apply_eq_ok_iff hc⟩⟩
    · rw [result_edit, hk]
      simp only [ha]
    · rw [after_edit, hk, editing, List.modify_eq_set_getElem?, ha]
      rfl
  holds := w.handed_run
  kept _ _ ops hk := hw.action_run hk ops
  settled _ ops hp hc := action_settled hp hc ops
  build key nonce block t ht := by
    refine ⟨build_actions ht, by rw [Writing.after, outcome_build, ht]⟩
  built := w.built_run
  commute _ _ _ _ h := hw.edits_comm h
  unhindered := w.result_after_edit

end Sound

/-- Whatever is done with a draft and with all that is handed out of it, it is written by single
steps that go to their own places. -/
theorem run_local (d : Draft) (ops : List Op) : ((start d).run ops).Local :=
  ((Sound.start d).run ops).isLocal

/-- Two calls are edited by turns, with a transfer between them. The last edit fails. -/
example : ((start (.start ⟨"bob.test", by decide +kernel⟩ none .executed)).run [
    .step 0 (.append (.call "a")), .step 1 (.edit (.rawArguments [1])),
    .step 1 (.append (.transfer (.int 3))), .step 0 (.append (.call "b")),
    .step 2 (.edit (.gas (.int 5))), .step 1 (.edit (.deposit (.int 2))),
    .step 1 (.edit (.gas (.int (-1))))]).draft.actions =
      [.direct (.functionCall "a" [1] Gas.standard ⟨2, by decide⟩),
        .direct (.transfer ⟨3, by decide⟩),
        .direct (.functionCall "b" [] ⟨5, by decide⟩ .zero)] := by
  decide +kernel

end Writing

end LedgerClient
