import LedgerClient.Bytes.Basic

/-!
The dictionary order of byte strings, and maps kept as pairs with strictly ascending keys. A later
pair of the same key replaces an earlier one, so a map does not depend on the order of its pairs.
-/

namespace LedgerClient

namespace Bytes

def before : Bytes → Bytes → Bool
  | [], [] => false
  | [], _ :: _ => true
  | _ :: _, [] => false
  | a :: as, b :: bs => a < b || (a == b && before as bs)

theorem before_irrefl (a : Bytes) : before a a = false := by
  induction a with
  | nil => rfl
  | cons x r ih => simp [before, ih]

theorem before_trans {a b c : Bytes} (h : before a b = true) (g : before b c = true) :
    before a c = true := by
  induction a generalizing b c with
  | nil => cases b <;> cases c <;> simp_all [before]
  | cons x r ih =>
    cases b with
    | nil => simp [before] at h
    | cons y s =>
      cases c with
      | nil => simp [before] at g
      | cons z t =>
        simp only [before, Bool.or_eq_true, Bool.and_eq_true, decide_eq_true_eq, beq_iff_eq] at *
        rcases h with h | ⟨rfl, h⟩
        · rcases g with g | ⟨rfl, _⟩
          · exact .inl (UInt8.lt_trans h g)
          · exact .inl h
        · rcases g with g | ⟨rfl, g⟩
          · exact .inl g
          · exact .inr ⟨rfl, ih h g⟩

theorem before_total {a b : Bytes} (h : before a b = false) (hne : a ≠ b) : before b a = true := by
  induction a generalizing b with
  | nil => cases b <;> simp_all [before]
  | cons x r ih =>
    cases b with
    | nil => rfl
    | cons y s =>
      simp only [before, Bool.or_eq_false_iff, decide_eq_false_iff_not, Bool.and_eq_false_iff,
        Bool.or_eq_true, Bool.and_eq_true, decide_eq_true_eq, beq_iff_eq] at *
      by_cases hxy : x = y
      · subst hxy
        exact .inr ⟨rfl, ih (by simpa using h.2) (by simpa using hne)⟩
      · exact .inl (Std.lt_of_le_of_ne (Std.not_lt.1 h.1) (Ne.symm hxy))

end Bytes

structure ByteMap where
  entries : List (Bytes × Bytes)
  ascending : entries.Pairwise fun a b => Bytes.before a.1 b.1 = true
  deriving DecidableEq

namespace ByteMap

def putEntry (k v : Bytes) : List (Bytes × Bytes) → List (Bytes × Bytes)
  | [] => [(k, v)]
  | (k', v') :: r =>
    if Bytes.before k k' then (k, v) :: (k', v') :: r
    else if k = k' then (k, v) :: r
    else (k', v') :: putEntry k v r

theorem mem_putEntry {k v : Bytes} {es : List (Bytes × Bytes)} {e : Bytes × Bytes}
    (h : e ∈ putEntry k v es) : e = (k, v) ∨ e ∈ es := by
  induction es with
  | nil => simpa [putEntry] using h
  | cons p r ih =>
    rw [putEntry] at h
    split at h
    · simpa using h
    · split at h
      · rcases List.mem_cons.1 h with h | h
        · exact .inl h
        · exact .inr (List.mem_cons_of_mem _ h)
      · rcases List.mem_cons.1 h with rfl | h
        · exact .inr (List.mem_cons_self ..)
        · exact (ih h).imp_right (List.mem_cons_of_mem _)

theorem ascending_putEntry (k v : Bytes) {es : List (Bytes × Bytes)}
    (h : es.Pairwise fun a b => Bytes.before a.1 b.1 = true) :
    (putEntry k v es).Pairwise fun a b => Bytes.before a.1 b.1 = true := by
  induction es with
  | nil => simp [putEntry]
  | cons p r ih =>
    obtain ⟨hp, hr⟩ := List.pairwise_cons.1 h
    rw [putEntry]
    split
    · rename_i hk
      refine List.pairwise_cons.2 ⟨fun e he => ?_, h⟩
      rcases List.mem_cons.1 he with rfl | he
      · exact hk
      · exact Bytes.before_trans hk (hp e he)
    · rename_i hk
      split
      · rename_i heq
        exact List.pairwise_cons.2 ⟨fun e he => heq ▸ hp e he, hr⟩
      · rename_i hne
        refine List.pairwise_cons.2 ⟨fun e he => ?_, ih hr⟩
        rcases mem_putEntry he with rfl | he
        · exact Bytes.before_total (by simpa using hk) hne
        · exact hp e he

def empty : ByteMap := ⟨[], .nil⟩

def put (m : ByteMap) (k v : Bytes) : ByteMap :=
  ⟨putEntry k v m.entries, ascending_putEntry k v m.ascending⟩

def ofPairs (ps : List (Bytes × Bytes)) : ByteMap := ps.foldl (fun m p => m.put p.1 p.2) empty

end ByteMap

end LedgerClient
