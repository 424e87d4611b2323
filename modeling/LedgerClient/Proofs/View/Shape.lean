import LedgerClient.View.Shape
import Mathlib.Tactic.Common

/-!
Readings that end in a value or in faults. An answer that is read by such a shape fails with
nothing but a fault of the host.
-/

namespace LedgerClient

variable {α β : Type}

namespace Reading

/-- A value or faults. -/
def Plain : Reading α → Prop
  | stopped _ => False
  | _ => True

lemma Plain.map {r : Reading α} (h : r.Plain) (f : α → β) : (f <$> r).Plain := by
  cases r with
  | ok a | faulty is => trivial
  | stopped e => exact h

lemma Plain.seq {r : Reading (α → β)} {s : Reading α} (hr : r.Plain) (hs : s.Plain) :
    (r <*> s).Plain := by
  cases r with
  | stopped e => exact hr
  | ok f | faulty is => cases s with
    | stopped e => exact hs
    | ok a | faulty js => trivial

lemma Plain.under {r : Reading α} (h : r.Plain) (s : Step) : (r.under s).Plain := by
  cases r with
  | ok a | faulty is => trivial
  | stopped e => exact h

lemma Plain.toExcept {r : Reading α} (h : r.Plain) {e : Error} (he : r.toExcept = .error e) :
    ∃ f, e = .host f := by
  cases r with
  | ok a => cases he
  | faulty is => exact ⟨_, (Except.error.inj he).symm⟩
  | stopped e => exact h.elim

end Reading

namespace Shape

def Plain (s : Shape α) : Prop := ∀ v, (s v).Plain

lemma text_plain : text.Plain := by
  intro v
  cases v <;> trivial

lemma members_plain : members.Plain := by
  intro v
  cases v <;> trivial

variable {s : Shape α} {ms : Members} {name : String}

lemma Plain.optional (h : s.Plain) : (optional s).Plain := by
  intro v
  cases v with
  | null => trivial
  | _ => exact (h _).map some

lemma Plain.items (h : s.Plain) (i : Nat) (vs : List Value) : (itemsFrom s i vs).Plain := by
  induction vs generalizing i with
  | nil => trivial
  | cons v vs ih => exact (((h v).under _).map _).seq (ih _)

lemma Plain.list (h : s.Plain) : (list s).Plain := by
  intro v
  cases v with
  | list vs => exact h.items 0 vs
  | _ => trivial

lemma Plain.required (h : s.Plain) : (required ms name s).Plain := by
  rw [Shape.required]
  cases ms.lookup name with
  | none => trivial
  | some v => exact (h v).under _

lemma Plain.orElse (h : s.Plain) {a : α} : (orElse ms name a s).Plain := by
  rw [Shape.orElse]
  cases ms.lookup name with
  | none => trivial
  | some v => exact (h v).under _

lemma record_plain {f : Members → Reading α} (h : ∀ ms, (f ms).Plain) : (record f).Plain := by
  intro v
  cases v with
  | object ms => exact h ms
  | _ => trivial

end Shape

namespace View

open Shape

lemma EndState.shape_plain : EndState.shape.Plain := by
  intro v
  cases v <;> trivial

lemma levelShape_plain : levelShape.Plain := by
  intro v
  cases v with
  | text s =>
    rw [levelShape]
    split <;> trivial
  | _ => trivial

lemma Execution.shape_plain : Execution.shape.Plain :=
  record_plain fun _ => ((text_plain.required.map _).seq text_plain.optional.orElse).seq
    members_plain.orElse

lemma Outcome.shape_plain : Outcome.shape.Plain :=
  record_plain fun _ => ((((levelShape_plain.orElse.map _).seq
    EndState.shape_plain.optional.orElse).seq members_plain.optional.orElse).seq
    Execution.shape_plain.optional.orElse).seq Execution.shape_plain.list.orElse

end View

end LedgerClient
