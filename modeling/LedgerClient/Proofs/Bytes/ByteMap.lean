import LedgerClient.Bytes.Order
import Mathlib.Data.List.Induction
import Mathlib.Data.List.Sort

/-!
Maps of byte strings as lists of pairs: putting pairs whose keys ascend keeps their order, so a map
is what its own entries come to. In any order, the last pair of each key is all that counts.
-/

namespace LedgerClient

/-- The order of keys is the order of the dictionary. -/
lemma Bytes.before_iff_lt {a b : Bytes} : before a b = true ↔ a < b := by
  induction a generalizing b with
  | nil => cases b <;> simp [before]
  | cons x r ih =>
    cases b with
    | nil => simp [before]
    | cons y s => simp [before, List.cons_lt_cons_iff, ih]

namespace ByteMap

/-- A pair behind all others by its key is put at the end. -/
lemma putEntry_last {k v : Bytes} {es : List (Bytes × Bytes)}
    (h : ∀ e ∈ es, Bytes.before e.1 k = true) : putEntry k v es = es ++ [(k, v)] := by
  induction es with
  | nil => rfl
  | cons e r ih =>
    obtain ⟨k', v'⟩ := e
    have hk : Bytes.before k' k = true := h (k', v') List.mem_cons_self
    have hn : Bytes.before k k' = false := by
      by_contra hc
      have := Bytes.before_trans hk (by simpa using hc)
      rw [Bytes.before_irrefl] at this
      simp at this
    have hne : k ≠ k' := by
      rintro rfl
      rw [Bytes.before_irrefl] at hk
      simp at hk
    rw [putEntry, hn, if_neg (by simp), if_neg hne,
      ih fun e he => h e (List.mem_cons_of_mem _ he)]
    rfl

lemma entries_foldl_put {ps : List (Bytes × Bytes)} {m : ByteMap}
    (h : (m.entries ++ ps).Pairwise fun a b => Bytes.before a.1 b.1 = true) :
    (ps.foldl (fun m p => m.put p.1 p.2) m).entries = m.entries ++ ps := by
  induction ps generalizing m with
  | nil => simp
  | cons p r ih =>
    have hp : (m.put p.1 p.2).entries = m.entries ++ [p] :=
      putEntry_last fun e he => (List.pairwise_append.1 h).2.2 e he p List.mem_cons_self
    rw [List.foldl_cons, ih (by rw [hp]; simpa using h), hp]
    simp

/-- Pairs with ascending keys are the entries of the map made of them. -/
theorem entries_ofPairs {ps : List (Bytes × Bytes)}
    (h : ps.Pairwise fun a b => Bytes.before a.1 b.1 = true) : (ofPairs ps).entries = ps :=
  entries_foldl_put (m := empty) h

theorem ext {a b : ByteMap} (h : a.entries = b.entries) : a = b := by
  cases a; cases b; simp_all

theorem ofPairs_entries (m : ByteMap) : ofPairs m.entries = m := ext (entries_ofPairs m.ascending)

/-! ### Values by keys -/

variable {k k' v : Bytes} {m m' : ByteMap} {ps qs : List (Bytes × Bytes)}

def get? (m : ByteMap) (k : Bytes) : Option Bytes := m.entries.lookup k

/-- What the last pair of a key gives. -/
def lastValue? (ps : List (Bytes × Bytes)) (k : Bytes) : Option Bytes := ps.reverse.lookup k

lemma lookup_cons_ite (p : Bytes × Bytes) (es : List (Bytes × Bytes)) :
    (p :: es).lookup k = if k = p.1 then some p.2 else es.lookup k := by
  by_cases h : k = p.1
  · rw [if_pos h, h]
    exact List.lookup_cons_self
  · rw [if_neg h, List.lookup_cons, beq_false_of_ne h]

lemma lookup_putEntry (es : List (Bytes × Bytes)) :
    (putEntry k v es).lookup k' = if k' = k then some v else es.lookup k' := by
  induction es with
  | nil => exact lookup_cons_ite (k, v) []
  | cons e r ih =>
    obtain ⟨k₀, v₀⟩ := e
    rw [putEntry]
    split_ifs with hbefore hkey hkey
    all_goals simp only [lookup_cons_ite, ih]
    all_goals grind

@[simp] lemma get?_put : (m.put k v).get? k' = if k' = k then some v else m.get? k' :=
  lookup_putEntry m.entries

/-- By induction from the last pair, which settles the value of its key. -/
theorem get?_ofPairs (ps : List (Bytes × Bytes)) (k : Bytes) :
    (ofPairs ps).get? k = lastValue? ps k := by
  induction ps using List.reverseRecOn with
  | nil => rfl
  | append_singleton ps p ih =>
    have hput : ofPairs (ps ++ [p]) = (ofPairs ps).put p.1 p.2 := by
      simp [ofPairs]
    have hlast : lastValue? (ps ++ [p]) k = if k = p.1 then some p.2 else lastValue? ps k := by
      rw [lastValue?, List.reverse_append]
      exact lookup_cons_ite p ps.reverse
    rw [hput, get?_put, ih, hlast]

/-- No key stands in a map twice. -/
lemma mem_entries_iff : (k, v) ∈ m.entries ↔ m.get? k = some v := by
  constructor
  · intro hmem
    obtain ⟨es, hasc⟩ := m
    change es.lookup k = some v
    induction es with
    | nil => cases hmem
    | cons e r ih =>
      obtain ⟨hhead, htail⟩ := List.pairwise_cons.1 hasc
      rcases List.mem_cons.1 hmem with rfl | hmem
      · exact List.lookup_cons_self
      · have hne : k ≠ e.1 := by
          rintro rfl
          have hself := hhead _ hmem
          rw [Bytes.before_irrefl] at hself
          cases hself
        rw [List.lookup_cons, beq_false_of_ne hne]
        exact ih htail hmem
  · intro hget
    obtain ⟨front, back, hes, -⟩ := List.lookup_eq_some_iff.1 hget
    simp [hes]

/-- Maps are told by the values of their keys. -/
theorem ext_get? (h : ∀ k, m.get? k = m'.get? k) : m = m' := by
  have hirrefl (a : Bytes × Bytes) : ¬ Bytes.before a.1 a.1 = true := by
    simp [Bytes.before_irrefl]
  have : Std.Irrefl fun a b : Bytes × Bytes => Bytes.before a.1 b.1 = true := ⟨hirrefl⟩
  have : Std.Antisymm fun a b : Bytes × Bytes => Bytes.before a.1 b.1 = true :=
    ⟨fun a b hab hba => absurd (Bytes.before_trans hab hba) (hirrefl a)⟩
  refine ext (m.ascending.eq_of_mem_iff m'.ascending fun ⟨k, v⟩ => ?_)
  rw [mem_entries_iff, mem_entries_iff, h]

/-- **A map is told by the last pair of each key,** whatever their order and the other pairs. -/
theorem ofPairs_eq_iff : ofPairs ps = ofPairs qs ↔ ∀ k, lastValue? ps k = lastValue? qs k := by
  constructor
  · intro h k
    rw [← get?_ofPairs, ← get?_ofPairs, h]
  · intro h
    refine ext_get? fun k => ?_
    rw [get?_ofPairs, get?_ofPairs, h]

end ByteMap

end LedgerClient
