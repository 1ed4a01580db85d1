import Mathlib.Tactic.Common
import Mathlib.Data.List.Nodup

/-! # Wrapping counters

A counter modulo `m` hands out `start`, `start + 1`, … and wraps. `handed m
start n` are the first `n` values. Until the wrap these are consecutive
numbers; past it they repeat. -/

namespace Counter

/-- The first `n` values of a counter modulo `m`. -/
def handed (m start n : Nat) : List Nat := (List.range' start n).map (· % m)

variable {m start n k : Nat}

@[simp] theorem length_handed : (handed m start n).length = n := by
  simp only [handed, List.length_map, List.length_range']

/-- The next value goes to the end. -/
theorem handed_succ : handed m start (n + 1) = handed m start n ++ [(start + n) % m] := by
  rw [handed, List.range'_1_concat, List.map_append]
  rfl

/-- Only where the counter stands matters. -/
theorem handed_congr {start' : Nat} (h : start % m = start' % m) :
    handed m start n = handed m start' n := by
  induction n with
  | zero => rfl
  | succ n ih => rw [handed_succ, handed_succ, ih, Nat.add_mod, h, ← Nat.add_mod]

/-- What is handed out after the first `k` values. -/
theorem drop_handed : (handed m start (k + n)).drop k = handed m (start + k) n := by
  rw [handed, ← List.range'_append_1, List.map_append]
  exact List.drop_left' length_handed

/-- A number the counter has passed was handed out. -/
theorem mem_handed (hs : start ≤ k) (hn : k < start + n) (hm : k < m) : k ∈ handed m start n := by
  rw [handed, List.mem_map]
  exact ⟨k, List.mem_range'_1.mpr ⟨hs, hn⟩, Nat.mod_eq_of_lt hm⟩

/-- Before the wrap the values are consecutive. -/
theorem handed_eq_range' (h : start + n ≤ m) : handed m start n = List.range' start n := by
  rw [handed]
  refine (List.map_congr_left fun k hk => ?_).trans (List.map_id _)
  have := (List.mem_range'_1.mp hk).2
  exact Nat.mod_eq_of_lt (by omega)

theorem mem_handed_iff (h : start + n ≤ m) :
    k ∈ handed m start n ↔ start ≤ k ∧ k < start + n := by
  rw [handed_eq_range' h, List.mem_range'_1]

theorem nodup_handed (h : start + n ≤ m) : (handed m start n).Nodup := by
  rw [handed_eq_range' h]
  exact List.nodup_range'

end Counter
