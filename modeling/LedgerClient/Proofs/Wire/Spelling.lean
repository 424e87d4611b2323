import LedgerClient.Proofs.Bytes.ByteMap
import LedgerClient.Proofs.Wire.Canonical

/-!
Binary forms up to the order of pairs. A map may be spelled by any list of pairs that comes to it,
and everything that contains maps has one spelling for each choice of such lists. `Reorders` says
that a notion of spelling adds no other freedom to a writer, and that the bytes tell the choice.
-/

namespace LedgerClient

open Encoding

variable {α β : Type}

/-- The pairs of a map in the order in which they stand in the bytes. -/
abbrev Listing := List (Bytes × Bytes)

/-- The keys are in strictly ascending order. -/
def Listing.Ascends (ps : Listing) : Prop := ps.Pairwise fun a b => Bytes.before a.1 b.1 = true

/-- Ways to spell values, each with the listings of the maps in it. -/
abbrev Spelling (α : Type) := α → List Listing → Encoding → Prop

namespace Spelling

/-- Some spelling, whatever the listings are. -/
def Any (F : Spelling α) (a : α) (e : Encoding) : Prop := ∃ ls, F a ls e

/-- Elements one behind the other, and the listings of all of them. -/
inductive Each (F : Spelling α) : Spelling (List α)
  | nil : Each F [] [] ∅
  | cons {a : α} {l : List α} {ls ls' : List Listing} {e e' : Encoding} :
    F a ls e → Each F l ls' e' → Each F (a :: l) (ls ++ ls') (e ++ e')

/-- A part that is spelled in some way, between others that are written in one way only. -/
def Between (F : Spelling α) (part : β → α) (front back : β → Encoding) : Spelling β :=
  fun b ls e => ∃ e', F (part b) ls e' ∧ e = front b ++ (e' ++ back b)

/-- The bytes spell the value and list these pairs. -/
def Lists (F : Spelling α) (a : α) (bs : Bytes) (ls : List Listing) : Prop :=
  ∃ e, F a ls e ∧ e.toBytes = .ok bs

lemma any_each {F : Spelling α} {xs : List α} {e : Encoding} (h : Row F.Any xs e) :
    (Each F).Any xs e := by
  induction h with
  | nil => exact ⟨[], .nil⟩
  | cons ha _ ih =>
    obtain ⟨ls, ha⟩ := ha
    obtain ⟨ls', ih⟩ := ih
    exact ⟨ls ++ ls', .cons ha ih⟩

/-- The spellings differ from what is written in nothing but listings. -/
structure Reorders (F : Spelling α) (w : α → Encoding) : Prop where
  /-- What is written lists the pairs in order. -/
  own (a : α) : ∃ ls, (∀ ps ∈ ls, ps.Ascends) ∧ F a ls (w a)
  ascending {a : α} {ls : List Listing} {e : Encoding} :
    F a ls e → (∀ ps ∈ ls, ps.Ascends) → e = w a
  writable {a : α} {ls : List Listing} {e : Encoding} : F a ls e → e.Writable → (w a).Writable
  /-- The listings follow from the bytes, and so does the end of the spelling. -/
  unique {a : α} {ls ls' : List Listing} {e e' : Encoding} {x y u v : Bytes} :
    F a ls e → F a ls' e' → e.toBytes = .ok x → e'.toBytes = .ok y → x ++ u = y ++ v →
    ls = ls' ∧ u = v

namespace Reorders

variable {F : Spelling α} {w : α → Encoding}

lemma congr {w' : α → Encoding} (h : F.Reorders w) (hw : ∀ a, w a = w' a) : F.Reorders w' :=
  funext hw ▸ h

lemma each (h : F.Reorders w) : (Each F).Reorders (all w) where
  own xs := by
    induction xs with
    | nil => exact ⟨[], fun _ hp => absurd hp List.not_mem_nil, .nil⟩
    | cons a l ih =>
      obtain ⟨ls, hls, ha⟩ := h.own a
      obtain ⟨ls', hls', hl⟩ := ih
      exact ⟨ls ++ ls', List.forall_mem_append.2 ⟨hls, hls'⟩, .cons ha hl⟩
  ascending hxs hls := by
    induction hxs with
    | nil => rfl
    | cons ha _ ih =>
      obtain ⟨hls, hls'⟩ := List.forall_mem_append.1 hls
      rw [h.ascending ha hls, ih hls', all]
  writable hxs he := by
    induction hxs with
    | nil => exact he
    | cons ha _ ih =>
      obtain ⟨he, he'⟩ := writable_append.1 he
      exact writable_append.2 ⟨h.writable ha he, ih he'⟩
  unique := by
    intro xs ls ls' e e' x y u v hx hy
    induction hx generalizing ls' e' x y u v with
    | nil =>
      cases hy
      intro he he' huv
      cases he
      cases he'
      exact ⟨rfl, huv⟩
    | cons ha _ ih =>
      cases hy with
      | cons ha' hl' =>
        intro he he' huv
        obtain ⟨x₁, x₂, hx₁, hx₂, rfl⟩ := toBytes_append_ok he
        obtain ⟨y₁, y₂, hy₁, hy₂, rfl⟩ := toBytes_append_ok he'
        rw [List.append_assoc, List.append_assoc] at huv
        obtain ⟨rfl, huv⟩ := h.unique ha ha' hx₁ hy₁ huv
        obtain ⟨rfl, huv⟩ := ih hl' hx₂ hy₂ huv
        exact ⟨rfl, huv⟩

lemma between (h : F.Reorders w) (part : β → α) (front back : β → Encoding) :
    (F.Between part front back).Reorders fun b => front b ++ (w (part b) ++ back b) where
  own b := by
    obtain ⟨ls, hls, hb⟩ := h.own (part b)
    exact ⟨ls, hls, w (part b), hb, rfl⟩
  ascending := by
    rintro b ls _ ⟨e, he, rfl⟩ hls
    rw [h.ascending he hls]
  writable := by
    rintro b ls _ ⟨e, he, rfl⟩ hw
    simp only [writable_append] at hw ⊢
    exact ⟨hw.1, h.writable he hw.2.1, hw.2.2⟩
  unique := by
    rintro b ls ls' _ _ x y u v ⟨e, he, rfl⟩ ⟨e', he', rfl⟩ hx hy huv
    obtain ⟨x₁, x', hx₁, hx', rfl⟩ := toBytes_append_ok hx
    obtain ⟨x₂, x₃, hx₂, hx₃, rfl⟩ := toBytes_append_ok hx'
    obtain ⟨y₁, y', hy₁, hy', rfl⟩ := toBytes_append_ok hy
    obtain ⟨y₂, y₃, hy₂, hy₃, rfl⟩ := toBytes_append_ok hy'
    -- The parts at both ends are the same bytes, so only the middle is left to compare.
    obtain rfl : x₁ = y₁ := Except.ok.inj (hx₁.symm.trans hy₁)
    obtain rfl : x₃ = y₃ := Except.ok.inj (hx₃.symm.trans hy₃)
    simp only [List.append_assoc, List.append_cancel_left_eq] at huv
    obtain ⟨rfl, huv⟩ := h.unique he he' hx₂ hy₂ huv
    exact ⟨rfl, List.append_cancel_left huv⟩

lemma lists_unique (h : F.Reorders w) {a : α} {bs : Bytes} {ls ls' : List Listing}
    (hl : F.Lists a bs ls) (hl' : F.Lists a bs ls') : ls = ls' := by
  obtain ⟨e, he, hbs⟩ := hl
  obtain ⟨e', he', hbs'⟩ := hl'
  exact (h.unique (u := []) (v := []) he he' hbs hbs' rfl).1

/-- What bytes are written again as depends on their listings alone. -/
theorem toBytes_iff (h : F.Reorders w) {a : α} {bs : Bytes} {ls : List Listing}
    (hl : F.Lists a bs ls) : (w a).toBytes = .ok bs ↔ ∀ ps ∈ ls, ps.Ascends := by
  constructor
  · intro hw
    obtain ⟨own, hown, ha⟩ := h.own a
    rw [h.lists_unique hl ⟨_, ha, hw⟩]
    exact hown
  · intro hls
    obtain ⟨e, he, hbs⟩ := hl
    rw [← h.ascending he hls]
    exact hbs

end Reorders

end Spelling

end LedgerClient
