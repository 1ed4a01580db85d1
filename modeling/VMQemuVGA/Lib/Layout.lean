import Mathlib.Algebra.BigOperators.Group.List.Basic
import Mathlib.Algebra.GroupWithZero.Nat
import Mathlib.Tactic.Common

/-! # Ranges one behind the other

Things of given sizes are laid out in their order, each from a multiple of a unit on. A
range is a start and a size. The ranges do not meet, and they leave out no multiple of the
unit. -/

namespace Layout

/-- Rounded up to a multiple of the unit. -/
def rounded (unit n : Nat) : Nat := (n + (unit - 1)) / unit * unit

/-- Where each range starts, and how long it is. -/
def ranges (unit : Nat) : Nat → List Nat → List (Nat × Nat)
  | _, [] => []
  | start, n :: ns => (start, n) :: ranges unit (start + rounded unit n) ns

/-- What all take together. -/
def total (unit : Nat) (ns : List Nat) : Nat := (ns.map (rounded unit)).sum

variable {unit start m n : Nat} {ns ms : List Nat} {p : Nat × Nat}

theorem dvd_rounded (unit n : Nat) : unit ∣ rounded unit n := ⟨_, Nat.mul_comm _ _⟩

theorem le_rounded (n : Nat) (hunit : 0 < unit) : n ≤ rounded unit n := by
  have hdiv := Nat.div_add_mod (n + (unit - 1)) unit
  have hmod := Nat.mod_lt (n + (unit - 1)) hunit
  rw [Nat.mul_comm] at hdiv
  unfold rounded
  omega

theorem rounded_lt (hunit : 0 < unit) : rounded unit n < n + unit := by
  have hle := Nat.div_mul_le_self (n + (unit - 1)) unit
  unfold rounded
  omega

@[simp] theorem total_nil : total unit [] = 0 := rfl

@[simp] theorem total_cons : total unit (n :: ns) = rounded unit n + total unit ns := List.sum_cons

@[simp] theorem total_append : total unit (ns ++ ms) = total unit ns + total unit ms := by
  rw [total, List.map_append, List.sum_append]
  rfl

theorem ranges_append :
    ranges unit start (ns ++ ms) =
      ranges unit start ns ++ ranges unit (start + total unit ns) ms := by
  induction ns generalizing start with
  | nil => rfl
  | cons n ns ih =>
      rw [List.cons_append, ranges, ranges, List.cons_append, ih, total_cons, Nat.add_assoc]

/-- Every range lies inside the whole. -/
theorem inside_of_mem (hunit : 0 < unit) (h : p ∈ ranges unit start ns) :
    start ≤ p.1 ∧ p.1 + p.2 ≤ start + total unit ns := by
  induction ns generalizing start with
  | nil => cases h
  | cons n ns ih =>
      have hle := le_rounded (n := n) hunit
      rw [total_cons]
      rcases List.mem_cons.mp h with rfl | h
      · dsimp only
        omega
      · have hinside := ih h
        omega

/-- **Ranges do not meet.** -/
theorem pairwise_ranges (hunit : 0 < unit) :
    (ranges unit start ns).Pairwise fun p q => p.1 + p.2 ≤ q.1 := by
  induction ns generalizing start with
  | nil => exact List.Pairwise.nil
  | cons n ns ih =>
      refine List.Pairwise.cons (fun q hq => ?_) ih
      have hle := le_rounded (n := n) hunit
      have hinside := inside_of_mem hunit hq
      dsimp only
      omega

/-- **No multiple of the unit is left out.** -/
theorem exists_range (hunit : 0 < unit) (hstart : unit ∣ start) (hm : unit ∣ m) (hle : start ≤ m)
    (hlt : m < start + total unit ns) (hpos : ∀ n ∈ ns, 0 < n) :
    ∃ p ∈ ranges unit start ns, p.1 ≤ m ∧ m < p.1 + p.2 := by
  induction ns generalizing start with
  | nil => exact absurd hlt (Nat.not_lt_of_le hle)
  | cons n ns ih =>
      by_cases hfirst : m < start + rounded unit n
      · refine ⟨(start, n), List.mem_cons_self, hle, ?_⟩
        -- the last multiple of the unit before the end of the rounded range is in the range
        obtain ⟨k, hk⟩ := Nat.dvd_sub hm hstart
        obtain ⟨q, hq⟩ := dvd_rounded unit n
        have hkq : k < q := by
          refine Nat.lt_of_mul_lt_mul_left (a := unit) ?_
          omega
        have hmul : unit * k + unit ≤ unit * q := by
          rw [← Nat.mul_succ]
          exact Nat.mul_le_mul_left unit hkq
        have hround := rounded_lt (n := n) hunit
        dsimp only
        omega
      · rw [total_cons] at hlt
        obtain ⟨p, hp, hmp⟩ := ih (Nat.dvd_add hstart (dvd_rounded unit n))
          (Nat.le_of_not_lt hfirst) (by omega) (fun x hx => hpos x (List.mem_cons_of_mem n hx))
        exact ⟨p, List.mem_cons_of_mem _ hp, hmp⟩

end Layout
