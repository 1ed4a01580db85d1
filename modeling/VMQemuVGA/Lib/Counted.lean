import VMQemuVGA.Lib.Loop
import Mathlib.Data.List.Basic

/-! # Counted loops on counters of fixed width

`for (i = first; i <= last; i += step)` with a counter that wraps at a modulus. Below the
modulus it is a fold over the values of the counter; up to the largest value of the counter
it does not end, since every value passes the test. -/

universe u

namespace Loop
variable {α : Type u}

/-- The loop, with what each round does to an accumulator. -/
def counted (modulus step last : Nat) (f : Nat → α → α) : Loop (Nat × α) α where
  body := fun (i, a) =>
    if i ≤ last then .inr ((i + step) % modulus, f i a) else .inl a

/-- The values the counter takes. -/
def counts (first step last : Nat) : List Nat :=
  List.range' first ((last + step - first) / step) step

variable {modulus step last first : Nat} {f : Nat → α → α} {a : α}

theorem counts_of_lt (hstep : 0 < step) (h : last < first) : counts first step last = [] := by
  rw [counts, Nat.div_eq_of_lt (by omega), List.range'_zero]

theorem counts_of_le (hstep : 0 < step) (h : first ≤ last) :
    counts first step last = first :: counts (first + step) step last := by
  have hdiv : (last + step - first) / step = (last + step - (first + step)) / step + 1 := by
    rw [← Nat.add_div_right _ hstep]
    congr 1
    omega
  rw [counts, hdiv, List.range'_succ, counts]

theorem counts_one : counts first 1 last = List.range' first (last + 1 - first) := by
  rw [counts, Nat.div_one]

/-- **Below the modulus** the loop is a fold over the values of its counter. -/
theorem counted_returns (hstep : 0 < step) (hlast : last + step < modulus) :
    (counted modulus step last f).Returns (first, a)
      ((counts first step last).foldl (fun a i => f i a) a) := by
  induction hn : last + 1 - first using Nat.strongRecOn generalizing first a with
  | _ n ih =>
      by_cases h : first ≤ last
      · have hbody : (counted modulus step last f).body (first, a) =
            .inr (first + step, f first a) := by
          simp only [counted, if_pos h]
          rw [Nat.mod_eq_of_lt (by omega)]
        rw [returns_iff_of_inr hbody, counts_of_le hstep h, List.foldl_cons]
        exact ih _ (by omega) rfl
      · rw [counts_of_lt hstep (Nat.lt_of_not_le h), List.foldl_nil]
        exact returns_of_inl (if_neg h)

/-- A loop that appends the value of its counter has appended all of them. -/
theorem foldl_counts_one (l : List Nat) :
    (counts first 1 last).foldl (fun a i => a ++ [i]) l =
      l ++ List.range' first (last + 1 - first) := by
  rw [counts_one]
  generalize last + 1 - first = n
  induction n generalizing first l with
  | zero => simp
  | succ n ih => simp [List.range'_succ, ih]

/-- So has one that appends a batch of them in each round, the last batch cut short. -/
theorem foldl_counts_batches (hstep : 0 < step) (l : List Nat) :
    (counts first step last).foldl
        (fun a i => a ++ List.range' i (min (i + step - 1) last + 1 - i)) l =
      l ++ List.range' first (last + 1 - first) := by
  induction hn : last + 1 - first using Nat.strongRecOn generalizing first l with
  | _ n ih =>
      by_cases h : first ≤ last
      · rw [counts_of_le hstep h, List.foldl_cons, ih _ (by omega) _ rfl, List.append_assoc]
        congr 1
        rcases Nat.le_total (first + step - 1) last with hle | hle
        · rw [Nat.min_eq_left hle, show first + step - 1 + 1 - first = step by omega,
            ← hn, show last + 1 - first = step + (last + 1 - (first + step)) by omega,
            ← List.range'_append_1]
        · rw [Nat.min_eq_right hle, show last + 1 - (first + step) = 0 by omega, hn,
            List.range'_zero, List.append_nil]
      · rw [counts_of_lt hstep (Nat.lt_of_not_le h), ← hn,
          show last + 1 - first = 0 by omega, List.range'_zero, List.append_nil, List.foldl_nil]

/-- **Up to the largest value** of the counter there is no end. -/
theorem not_halts_counted (hmodulus : last + 1 = modulus) (hfirst : first ≤ last) :
    ¬ (counted modulus step last f).Halts (first, a) := by
  refine not_halts_of_invariant (I := fun s => s.1 ≤ last) ?_ hfirst
  rintro ⟨i, a⟩ hi
  refine ⟨_, if_pos hi, Nat.le_of_lt_succ ?_⟩
  rw [Nat.succ_eq_add_one, hmodulus]
  exact Nat.mod_lt _ (by omega)

end Loop
