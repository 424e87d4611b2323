/-!
Positional numerals, most significant digit first and without leading zeros. `value` and `digits`
are inverse to each other on such numerals.
-/

namespace LedgerClient.Positional

def value (base : Nat) (ds : List Nat) : Nat := ds.foldl (fun n d => n * base + d) 0

def digits (base n : Nat) : List Nat :=
  if _h : 2 ≤ base ∧ n ≠ 0 then digits base (n / base) ++ [n % base] else []
termination_by n
decreasing_by exact Nat.div_lt_self (by omega) (by omega)

/-- The lowest `width` digits, leading zeros included. -/
def fixed (base : Nat) : Nat → Nat → List Nat
  | 0, _ => []
  | width + 1, n => fixed base width (n / base) ++ [n % base]

theorem value_append_singleton (base : Nat) (ds : List Nat) (d : Nat) :
    value base (ds ++ [d]) = value base ds * base + d := by
  simp [value]

theorem length_fixed (base width n : Nat) : (fixed base width n).length = width := by
  induction width generalizing n with
  | zero => rfl
  | succ w ih => simp [fixed, ih]

theorem value_fixed (base width n : Nat) :
    value base (fixed base width n) = n % Nat.pow base width := by
  simp only [Nat.pow_eq]
  induction width generalizing n with
  | zero => simp [fixed, value, Nat.mod_one]
  | succ w ih =>
    rw [fixed, value_append_singleton, ih, Nat.pow_succ', Nat.mod_mul]
    rw [Nat.mul_comm, Nat.add_comm]

theorem digits_zero (base : Nat) : digits base 0 = [] := by
  rw [digits]; simp

theorem value_digits (base n : Nat) (hb : 2 ≤ base) : value base (digits base n) = n := by
  induction n using Nat.strongRecOn with
  | ind n ih =>
    rw [digits]
    split
    · rename_i h
      rw [value_append_singleton, ih _ (Nat.div_lt_self (by omega) (by omega)), Nat.div_add_mod']
    · rename_i h
      have : n = 0 := by omega
      simp [value, this]

theorem digits_lt (base n : Nat) : ∀ d ∈ digits base n, d < base := by
  induction n using Nat.strongRecOn with
  | ind n ih =>
    rw [digits]
    split
    · rename_i h
      intro d hd
      rcases List.mem_append.1 hd with hd | hd
      · exact ih _ (Nat.div_lt_self (by omega) (by omega)) d hd
      · rw [List.mem_singleton.1 hd]
        exact Nat.mod_lt _ (by omega)
    · simp

end LedgerClient.Positional
