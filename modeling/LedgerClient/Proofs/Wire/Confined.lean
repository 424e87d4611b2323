import LedgerClient.Proofs.Wire.Yields

/-!
Readers that stay where they belong. `Confined` says of a reader that it never leaves the buffer,
whether it fails or not, and that it fails for nothing but the encoding. Primitives are confined,
and so is whatever is put together from confined readers. `Curtails` compares a reader with a
confined one: it does the same, or ends early with an error of its own.
-/

namespace LedgerClient

variable {α β : Type}

/-- On the same buffer, with no more left than before: what is left now is an end of it. -/
structure Cursor.Onward (c c' : Cursor) : Prop where
  size_eq : c'.size = c.size
  suffix : c'.rest <:+ c.rest

namespace Cursor.Onward

variable {c c₁ c' : Cursor}

lemma refl (c : Cursor) : c.Onward c := ⟨rfl, List.suffix_rfl⟩

lemma trans (h : c.Onward c₁) (g : c₁.Onward c') : c.Onward c' :=
  ⟨g.size_eq.trans h.size_eq, g.suffix.trans h.suffix⟩

end Cursor.Onward

/-- Wherever the reader ends, it is still in the buffer, and all its errors are encoding errors. -/
structure Confined (r : Reader α) : Prop where
  onward : ∀ {c c' x}, r c = (x, c') → c.Onward c'
  fault : ∀ {c c' e}, r c = (.error e, c') → e.OfKind .encoding

namespace Confined

variable {r : Reader α} {f : α → Reader β}

lemma pure (a : α) : Confined (Pure.pure a : Reader α) where
  onward h := by
    cases h
    exact .refl _
  fault h := by cases h

lemma fail {e : Error} (he : e.OfKind .encoding) : Confined (Reader.fail e : Reader α) where
  onward h := by
    cases h
    exact .refl _
  fault h := by
    cases h
    exact he

lemma refuse (m : String) : Confined (Reader.refuse m : Reader α) := fail ⟨m, [], none, rfl⟩

lemma bind (hr : Confined r) (hf : ∀ a, Confined (f a)) : Confined (r >>= f) where
  onward {c c' x} h := by
    rcases hc : r c with ⟨e | a, c₁⟩
    · rw [Reader.bind_error hc] at h
      cases h
      exact hr.onward hc
    · rw [Reader.bind_ok hc] at h
      exact (hr.onward hc).trans ((hf a).onward h)
  fault h := by
    obtain h | ⟨a, c₁, -, h⟩ := Reader.of_bind_error h
    · exact hr.fault h
    · exact (hf a).fault h

lemma map {g : α → β} (hr : Confined r) : Confined (do return g (← r)) :=
  hr.bind fun a => pure (g a)

end Confined

/-! ### Primitives and what is made of them -/

/-- Where the bytes do not suffice, none is taken. -/
lemma confined_take (n : Int) (what : String) : Confined (Reader.take n what) where
  onward {c c' x} h := by
    rw [Reader.take] at h
    split at h
    · cases h
      exact .refl c
    · cases h
      exact ⟨rfl, List.drop_suffix _ _⟩
  fault h := by
    rw [Reader.take] at h
    split at h
    · cases h
      exact ⟨_, _, _, rfl⟩
    · cases h

lemma confined_int (w : Width) : Confined (Reader.int w) := (confined_take _ _).map

lemma confined_tag : Confined Reader.tag := confined_int .u8

lemma confined_counted : Confined Reader.counted :=
  (confined_int .u32).bind fun _ => confined_take _ _

lemma confined_text : Confined Reader.text := by
  refine confined_counted.bind fun bs => ?_
  split
  · exact .pure _
  · exact .fail ⟨_, _, _, rfl⟩

section Parts

variable {r : Reader α} (hr : Confined r)

include hr

lemma confined_option : Confined (Reader.option r) := by
  refine confined_tag.bind fun n => ?_
  split
  · exact .pure _
  · exact hr.map
  · exact .refuse _

lemma confined_times (n : Nat) : Confined (Reader.times r n) := by
  induction n with
  | zero => exact .pure _
  | succ n ih => exact hr.bind fun _ => ih.map

lemma confined_sequence : Confined (Reader.sequence r) :=
  (confined_int .u32).bind fun n => confined_times hr n

end Parts

/-! ### Readers that may end early -/

/-- On every buffer the first reader does as the second one, or ends within it for a reason of its
own. -/
def Curtails (P : Error → Prop) (q r : Reader α) : Prop :=
  ∀ c, q c = r c ∨ ∃ x c', q c = (.error x, c') ∧ P x ∧ c.Onward c'

namespace Curtails

variable {P Q : Error → Prop} {q r : Reader α} {f g : α → Reader β}

lemma refl (r : Reader α) : Curtails P r r := fun _ => .inl rfl

lemma fail {x : Error} (hx : P x) (r : Reader α) : Curtails P (Reader.fail x) r :=
  fun c => .inr ⟨x, c, rfl, hx, .refl c⟩

lemma imp (h : Curtails P q r) (hPQ : ∀ x, P x → Q x) : Curtails Q q r := fun c =>
  (h c).imp_right fun ⟨x, c', hc, hx, ho⟩ => ⟨x, c', hc, hPQ x hx, ho⟩

lemma bind (h : Curtails P q r) (hr : Confined r) (hf : ∀ a, Curtails P (f a) (g a)) :
    Curtails P (q >>= f) (r >>= g) := by
  intro c
  rcases h c with hq | ⟨x, c', hq, hx, ho⟩
  · rcases hc : r c with ⟨e | a, c₁⟩
    · exact .inl ((Reader.bind_error (hq.trans hc)).trans (Reader.bind_error hc).symm)
    · rw [Reader.bind_ok (hq.trans hc), Reader.bind_ok hc]
      exact (hf a c₁).imp_right fun ⟨x, c', hx, hP, ho⟩ =>
        ⟨x, c', hx, hP, (hr.onward hc).trans ho⟩
  · exact .inr ⟨x, c', Reader.bind_error hq, hx, ho⟩

lemma map {k : α → β} (h : Curtails P q r) (hr : Confined r) :
    Curtails P (do return k (← q)) (do return k (← r)) := h.bind hr fun _ => refl _

lemma option (h : Curtails P q r) (hr : Confined r) :
    Curtails P (Reader.option q) (Reader.option r) := by
  refine (refl Reader.tag).bind confined_tag fun n => ?_
  split
  · exact refl _
  · exact h.map hr
  · exact refl _

lemma times (h : Curtails P q r) (hr : Confined r) (n : Nat) :
    Curtails P (Reader.times q n) (Reader.times r n) := by
  induction n with
  | zero => exact refl _
  | succ n ih => exact h.bind hr fun _ => ih.map (confined_times hr n)

lemma sequence (h : Curtails P q r) (hr : Confined r) :
    Curtails P (Reader.sequence q) (Reader.sequence r) :=
  (refl _).bind (confined_int .u32) fun n => h.times hr n

end Curtails

end LedgerClient
