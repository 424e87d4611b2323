import LedgerClient.Proofs.Wire.Reads

/-!
The converse of reading back: what a reader may come to on bytes that nobody has written. `Spells`
says that an encoding stands between two places of a buffer, and `Yields` says everything about a
reader at once: which encoding it has taken for a value, which errors it may end with, and how many
bytes it needs before the stack can be used up.
-/

namespace LedgerClient

open Encoding

variable {α β : Type}

namespace Encoding

/-- Can be written without a fault. -/
def Writable (e : Encoding) : Prop := ∃ bs, e.toBytes = .ok bs

lemma writable_append {a b : Encoding} : (a ++ b).Writable ↔ a.Writable ∧ b.Writable := by
  constructor
  · rintro ⟨bs, h⟩
    obtain ⟨x, y, hx, hy, -⟩ := toBytes_append_ok h
    exact ⟨⟨x, hx⟩, ⟨y, hy⟩⟩
  · rintro ⟨⟨x, hx⟩, ⟨y, hy⟩⟩
    exact ⟨_, toBytes_append hx hy⟩

lemma writable_int {w : Width} {n : Int} :
    (int w n).Writable ↔ 0 ≤ n ∧ n < Nat.pow 256 w.size := by
  constructor
  · rintro ⟨bs, h⟩
    obtain ⟨h0, hlt, -⟩ := int_ok h
    exact ⟨h0, hlt⟩
  · rintro ⟨h0, hlt⟩
    obtain ⟨k, rfl⟩ := Int.eq_ofNat_of_zero_le h0
    exact ⟨_, int_toBytes (by omega)⟩

lemma writable_all {w : α → Encoding} {xs : List α} :
    (all w xs).Writable ↔ ∀ a ∈ xs, (w a).Writable := by
  induction xs with
  | nil => exact ⟨fun _ _ ha => absurd ha List.not_mem_nil, fun _ => ⟨[], rfl⟩⟩
  | cons a l ih => rw [all, writable_append, ih, List.forall_mem_cons]

lemma writable_sequence {w : α → Encoding} {xs : List α} :
    (sequence w xs).Writable ↔ xs.length < Nat.pow 256 4 ∧ ∀ a ∈ xs, (w a).Writable := by
  rw [Encoding.sequence, writable_append, writable_int, writable_all]
  simp only [Width.size, Int.natCast_nonneg, true_and, Int.ofNat_lt]

lemma writable_ofBytes (bs : Bytes) : (ofBytes bs).Writable := ⟨bs, rfl⟩

lemma writable_counted {bs : Bytes} : (counted bs).Writable ↔ bs.length < Nat.pow 256 4 := by
  rw [counted, writable_append, writable_int]
  simp only [Width.size, Int.natCast_nonneg, true_and, Int.ofNat_lt, writable_ofBytes, and_true]

lemma writable_option {w : α → Encoding} {o : Option α} :
    (option w o).Writable ↔ ∀ a ∈ o, (w a).Writable := by
  cases o with
  | none => exact ⟨fun _ _ ha => absurd ha (Option.not_mem_none _), fun _ => ⟨_, rfl⟩⟩
  | some a =>
    have htag : (tag 1).Writable := ⟨_, rfl⟩
    rw [option, writable_append]
    exact ⟨fun h _ ha => Option.some.inj ha ▸ h.2, fun h => ⟨htag, h a rfl⟩⟩

@[simp] lemma empty_append (a : Encoding) : (∅ : Encoding) ++ a = a := rfl

/-- A number that fits stands for its bytes. -/
lemma int_eq {w : Width} {n : Nat} (h : n < Nat.pow 256 w.size) :
    int w n = ofBytes (Bytes.ofNatLE w.size n) := by
  have hf : w.fits n = true := by
    simp only [Width.fits, Bool.and_eq_true, decide_eq_true_eq]
    omega
  rw [int, if_pos hf]
  rfl

end Encoding

/-! ### What was read -/

/-- Between the two places of a buffer stands what the encoding writes. -/
def Spells (e : Encoding) (c c' : Cursor) : Prop :=
  ∃ bs, e.toBytes = .ok bs ∧ c = ⟨c'.size, bs ++ c'.rest⟩

namespace Spells

variable {a b : Encoding} {c c₁ c' : Cursor}

lemma empty (c : Cursor) : Spells ∅ c c := ⟨[], rfl, rfl⟩

lemma append (h : Spells a c c₁) (g : Spells b c₁ c') : Spells (a ++ b) c c' := by
  obtain ⟨x, hx, rfl⟩ := h
  obtain ⟨y, hy, rfl⟩ := g
  exact ⟨x ++ y, toBytes_append hx hy, by rw [List.append_assoc]⟩

/-- As many bytes are gone as the encoding has. -/
lemma length {k : Nat} (h : Spells a c c') (hk : ∀ bs, a.toBytes = .ok bs → k ≤ bs.length) :
    c'.rest.length + k ≤ c.rest.length := by
  obtain ⟨bs, hbs, rfl⟩ := h
  have := hk bs hbs
  simp only [List.length_append]
  omega

end Spells

/-! ### Errors of reading -/

namespace Error

def OfKind (k : Kind) (e : Error) : Prop := ∃ m ds cause, e = .client k m ds cause

/-- What the host throws is none of the client's errors. -/
lemma not_ofKind_host (f : Fault) (k : Kind) : ¬ (host f).OfKind k := by
  rintro ⟨m, ds, cause, h⟩
  cases h

/-- What bytes are at fault for: they are no encoding, or spell a text that names no account. -/
def Malformed (e : Error) : Prop := e.OfKind .encoding ∨ e.OfKind .account

lemma Malformed.encoding (m : String) (ds : Members) (cause : Option Error) :
    Malformed (.client .encoding m ds cause) := .inl ⟨m, ds, cause, rfl⟩

lemma Malformed.account (m : String) : Malformed (.plain .account m) := .inr ⟨m, [], none, rfl⟩

end Error

/-! ### Outcomes -/

namespace Reader

variable {r : Reader α} {f : α → Reader β} {c c' : Cursor}

lemma of_bind_ok {b : β} (h : (r >>= f) c = (.ok b, c')) :
    ∃ a c₁, r c = (.ok a, c₁) ∧ f a c₁ = (.ok b, c') := by
  rcases hr : r c with ⟨x | a, c₁⟩
  · rw [bind_error hr] at h
    cases h
  · rw [bind_ok hr] at h
    exact ⟨a, c₁, rfl, h⟩

lemma of_bind_error {x : Error} (h : (r >>= f) c = (.error x, c')) :
    r c = (.error x, c') ∨ ∃ a c₁, r c = (.ok a, c₁) ∧ f a c₁ = (.error x, c') := by
  rcases hr : r c with ⟨y | a, c₁⟩
  · rw [bind_error hr] at h
    cases h
    exact .inl rfl
  · rw [bind_ok hr] at h
    exact .inr ⟨a, c₁, rfl, h⟩

lemma of_expectEnd_ok (h : expectEnd c = (.ok (), c')) : c.rest = [] := by
  rw [expectEnd] at h
  split at h
  · rename_i he
    exact List.isEmpty_iff.1 he
  · cases h

end Reader

/-- Everything that a reader may come to. A value has taken one of its encodings off the front; an
error is due to the bytes, or to a stack that was used up by at least `d` of them. -/
structure Yields (d : Nat) (F : α → Encoding → Prop) (r : Reader α) : Prop where
  value : ∀ {c c' a}, r c = (.ok a, c') → ∃ e, F a e ∧ Spells e c c'
  fault : ∀ {c c' x}, r c = (.error x, c') →
    x.Malformed ∨ x = .host (.tooDeep .calling) ∧ d ≤ c.rest.length

namespace Yields

variable {d : Nat} {F : α → Encoding → Prop} {G : β → Encoding → Prop} {r : Reader α}
  {f : α → Reader β}

lemma pure {a : α} (h : F a ∅) : Yields d F (Pure.pure a : Reader α) where
  value := by
    rintro c c' b hb
    obtain ⟨rfl, rfl⟩ : a = b ∧ c = c' := by simpa using hb
    exact ⟨∅, h, Spells.empty c⟩
  fault h := by cases h

lemma fail {x : Error} (h : x.Malformed) : Yields d F (Reader.fail x) where
  value h := by cases h
  fault hx := by
    cases hx
    exact .inl h

lemma refuse {m : String} : Yields d F (Reader.refuse m) := fail (.encoding m [] none)

lemma lift {x : Except Error α} (hok : ∀ a, x = .ok a → F a ∅)
    (herr : ∀ e, x = .error e → e.Malformed) : Yields d F (Reader.lift x) := by
  cases x with
  | ok a => exact pure (hok a rfl)
  | error e => exact fail (herr e rfl)

/-- What comes behind a first part that takes `k` bytes or more. -/
lemma bind_after {k : Nat} (hr : Yields (d + k) F r)
    (hk : ∀ a e bs, F a e → e.toBytes = .ok bs → k ≤ bs.length)
    (hf : ∀ a e, F a e → Yields d (fun b e' => G b (e ++ e')) (f a)) :
    Yields (d + k) G (r >>= f) where
  value h := by
    obtain ⟨a, c₁, ha, h⟩ := Reader.of_bind_ok h
    obtain ⟨e, he, hs⟩ := hr.value ha
    obtain ⟨e', he', hs'⟩ := (hf a e he).value h
    exact ⟨e ++ e', he', hs.append hs'⟩
  fault h := by
    obtain h | ⟨a, c₁, ha, h⟩ := Reader.of_bind_error h
    · exact hr.fault h
    · obtain ⟨e, he, hs⟩ := hr.value ha
      have hlen := hs.length fun bs => hk a e bs he
      exact ((hf a e he).fault h).imp_right fun hx => ⟨hx.1, by omega⟩

lemma bind (hr : Yields d F r)
    (hf : ∀ a e, F a e → Yields d (fun b e' => G b (e ++ e')) (f a)) : Yields d G (r >>= f) :=
  bind_after (k := 0) hr (fun _ _ _ _ _ => Nat.zero_le _) hf

/-- A last step that makes something of the value and reads nothing. -/
lemma map {g : α → β} (hr : Yields d F r) (hg : ∀ a e, F a e → G (g a) e) :
    Yields d G (do return g (← r)) :=
  hr.bind fun a e h => pure (by rw [append_empty]; exact hg a e h)

lemma imp {F' : α → Encoding → Prop} (hr : Yields d F r) (h : ∀ a e, F a e → F' a e) :
    Yields d F' r where
  value ha := by
    obtain ⟨e, he, hs⟩ := hr.value ha
    exact ⟨e, h _ e he, hs⟩
  fault := hr.fault

lemma mono {d' : Nat} (h : d ≤ d') (hr : Yields d' F r) : Yields d F r where
  value := hr.value
  fault hx := (hr.fault hx).imp_right fun g => ⟨g.1, Nat.le_trans h g.2⟩

/-- A whole buffer is an encoding of the value. -/
theorem whole_ok {bs : Bytes} {a : α} (hr : Yields d F r) (h : Reader.whole r bs = .ok a) :
    ∃ e, F a e ∧ e.toBytes = .ok bs := by
  obtain ⟨b, c₁, hb, h⟩ := Reader.of_bind_ok (Prod.ext h rfl)
  obtain ⟨⟨⟩, c₂, hend, h⟩ := Reader.of_bind_ok h
  obtain ⟨rfl, -⟩ : b = a ∧ _ := by simpa using h
  obtain ⟨e, he, x, hx, hs⟩ := hr.value hb
  have hbs : bs = x := by
    have := congrArg Cursor.rest hs
    rwa [Reader.of_expectEnd_ok hend, List.append_nil] at this
  exact ⟨e, he, hbs ▸ hx⟩

/-- A buffer is refused for a fault of its bytes, or because it has used up the stack. -/
theorem whole_error {bs : Bytes} {x : Error} (hr : Yields d F r)
    (h : Reader.whole r bs = .error x) :
    x.Malformed ∨ x = .host (.tooDeep .calling) ∧ d ≤ bs.length := by
  obtain h | ⟨b, c₁, hb, h⟩ := Reader.of_bind_error (Prod.ext h rfl)
  · exact hr.fault h
  · obtain h | ⟨-, c₂, -, h⟩ := Reader.of_bind_error h
    · rw [Reader.expectEnd] at h
      split at h
      · cases h
      · cases h
        exact .inl (.encoding _ _ _)
    · cases h

end Yields

/-! ### One spelling for each value -/

/-- The reader accepts for each value just what is written for it. -/
def Canonical (r : Reader α) (w : α → Encoding) : Prop := ∀ d, Yields d (fun a e => e = w a) r

namespace Canonical

variable {d : Nat} {F : α → Encoding → Prop} {G : β → Encoding → Prop} {r : Reader α}
  {w : α → Encoding} {f : α → Reader β}

lemma bind_after {k : Nat} (hr : Canonical r w)
    (hk : ∀ a bs, (w a).toBytes = .ok bs → k ≤ bs.length)
    (hf : ∀ a, Yields d (fun b e => G b (w a ++ e)) (f a)) : Yields (d + k) G (r >>= f) := by
  refine (hr (d + k)).bind_after ?_ ?_
  · rintro a _ bs rfl
    exact hk a bs
  · rintro a _ rfl
    exact hf a

lemma bind (hr : Canonical r w) (hf : ∀ a, Yields d (fun b e => G b (w a ++ e)) (f a)) :
    Yields d G (r >>= f) := bind_after hr (fun _ _ _ => Nat.zero_le _) hf

/-- The last part of a value. -/
lemma last {g : α → β} (hr : Canonical r w) (hg : ∀ a, G (g a) (w a)) :
    Yields d G (do return g (← r)) := by
  refine (hr d).map ?_
  rintro a _ rfl
  exact hg a

end Canonical

end LedgerClient
