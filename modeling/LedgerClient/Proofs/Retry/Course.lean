import LedgerClient.Proofs.Dialogue.Moves
import LedgerClient.Retry.Loop
import Mathlib.Algebra.Order.Field.Rat
import Mathlib.Algebra.Order.Ring.NNRat
import Mathlib.Data.List.Basic
import Mathlib.Data.NNRat.Lemmas
import Mathlib.Data.Nat.Find

/-!
The course of a loop of attempts: the attempts in turn, numbered from zero, with one pause between
each two of them. Their outcomes alone decide where it ends and with what.
-/

namespace LedgerClient

open Dialogue

variable {σ δ α : Type}

/-- An outcome after which another attempt may help. -/
def IsOpen (w : Except Error α) : Prop := ∃ e, w = .error e ∧ e.shouldResend

/-- The moves of the attempts up to a number, with a pause behind each but the last. -/
def course (tries : ℕ → List (Move σ δ)) (pauses : ℕ → δ) (k : ℕ) : List (Move σ δ) :=
  tries 0 ++ (List.range k).flatMap fun i => .pause (pauses i) :: tries (i + 1)

@[simp] lemma course_zero (tries : ℕ → List (Move σ δ)) (pauses : ℕ → δ) :
    course tries pauses 0 = tries 0 := List.append_nil _

namespace RetryPolicy

/-- Where attempts with these outcomes end, and with what, if so many of them may be repeated: at
the first outcome that is not open, or else at the last attempt. -/
inductive Ends (p : RetryPolicy δ) (left : ℕ) (o : ℕ → Except Error α) :
    ℕ → Except Error α → Prop
  | settled {k : ℕ} : k ≤ left → (∀ i < k, IsOpen (o i)) → ¬ IsOpen (o k) → Ends p left o k (o k)
  | exhausted {e : Error} : (∀ i ≤ left, IsOpen (o i)) → o left = .error e →
    Ends p left o left (.error (.request (.exhausted p.attempts) (some e)))

namespace Ends

variable {p : RetryPolicy δ} {left k : ℕ} {o : ℕ → Except Error α} {w : Except Error α}

/-- The first outcome that is not open comes before all others, and before the attempts are used
up. -/
lemma unique {l : ℕ} {x : Except Error α} (h : p.Ends left o k w) (h' : p.Ends left o l x) :
    k = l ∧ w = x := by
  cases h with
  | settled hk ho hs =>
    cases h' with
    | settled hl ho' hs' =>
      obtain hlt | rfl | hlt := Nat.lt_trichotomy k l
      · exact absurd (ho' k hlt) hs
      · exact ⟨rfl, rfl⟩
      · exact absurd (ho l hlt) hs'
    | exhausted ho' _ => exact absurd (ho' k hk) hs
  | exhausted ho he =>
    cases h' with
    | settled hl _ hs' => exact absurd (ho l hl) hs'
    | exhausted _ he' =>
      obtain rfl := Except.error.inj (he.symm.trans he')
      exact ⟨rfl, rfl⟩

lemma congr {o' : ℕ → Except Error α} (ho : ∀ i ≤ k, o i = o' i) (h : p.Ends left o k w) :
    p.Ends left o' k w := by
  cases h with
  | settled hk hopen hs =>
    rw [ho k le_rfl] at hs ⊢
    exact .settled hk (fun i hi => ho i hi.le ▸ hopen i hi) hs
  | exhausted hopen he => exact .exhausted (fun i hi => ho i hi ▸ hopen i hi) (ho left le_rfl ▸ he)

end Ends

/-! ### The loop -/

section Loop

variable [Span δ] {p : RetryPolicy δ} {f : ℕ → Act σ δ α} {left n : ℕ} {latest : Option Error}
  {ms : List (Move σ δ)} {w : Except Error α}

variable {pauses : ℕ → δ}

end Loop

/-! ### Exact lengths of time -/

/-- Lengths of time that are never rounded and have no limit. -/
instance : Span ℚ≥0 where
  scale d n := .ok (d * 2 ^ n)
  lesser a b := if b < a then b else a

/-- The pause behind the attempt with this number. -/
def pause (p : RetryPolicy ℚ≥0) (i : ℕ) : ℚ≥0 := min (p.initialDelay * 2 ^ i) p.maxDelay

variable (p : RetryPolicy ℚ≥0) (i : ℕ)

end RetryPolicy

end LedgerClient
