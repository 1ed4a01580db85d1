import Mathlib.Algebra.BigOperators.Group.List.Basic
import Mathlib.Tactic.Common

/-! # Packing in the order of arrival

Items of given sizes go into bins of one capacity. Only the last bin is open: what does not
fit there goes to the front of the next one. `(bin, load)` is the open bin and how full it
is; an item is placed at an offset in a bin. -/

namespace NextFit

/-- Where an item of size `x` goes. -/
def place (capacity x : Nat) (s : Nat × Nat) : Nat × Nat :=
  if s.2 + x ≤ capacity then s else (s.1 + 1, 0)

/-- The open bin with an item in it. -/
def fill (x : Nat) (p : Nat × Nat) : Nat × Nat := (p.1, p.2 + x)

/-- Where each item goes. -/
def places (capacity : Nat) : Nat × Nat → List Nat → List (Nat × Nat)
  | _, [] => []
  | s, x :: xs =>
      place capacity x s :: places capacity (fill x (place capacity x s)) xs

/-- What is open in the end. -/
def last (capacity : Nat) : Nat × Nat → List Nat → Nat × Nat
  | s, [] => s
  | s, x :: xs => last capacity (fill x (place capacity x s)) xs

variable {capacity x : Nat} {xs : List Nat} {s p : Nat × Nat}

theorem place_of_le (h : s.2 + x ≤ capacity) : place capacity x s = s := if_pos h

theorem place_of_lt (h : capacity < s.2 + x) : place capacity x s = (s.1 + 1, 0) :=
  if_neg (Nat.not_le_of_lt h)

theorem place_add_le (hx : x ≤ capacity) : (place capacity x s).2 + x ≤ capacity := by
  unfold place
  split
  next h => exact h
  next => rwa [Nat.zero_add]

/-- Later in the same bin, or in a later one. -/
def Behind (s p : Nat × Nat) : Prop := s.1 < p.1 ∨ s.1 = p.1 ∧ s.2 ≤ p.2

theorem Behind.refl (s : Nat × Nat) : Behind s s := .inr ⟨rfl, Nat.le_refl _⟩

theorem Behind.trans {q : Nat × Nat} (h : Behind s p) (h' : Behind p q) : Behind s q := by
  unfold Behind at *
  omega

theorem behind_place : Behind s (place capacity x s) := by
  unfold place
  split
  · exact .refl s
  · exact .inl (Nat.lt_succ_self _)

theorem behind_fill : Behind p (fill x p) := .inr ⟨rfl, Nat.le_add_right _ _⟩

theorem behind_last : Behind s (last capacity s xs) := by
  induction xs generalizing s with
  | nil => exact .refl s
  | cons x xs ih => exact behind_place.trans (behind_fill.trans ih)

theorem behind_of_mem (h : p ∈ places capacity s xs) : Behind s p := by
  induction xs generalizing s with
  | nil => cases h
  | cons x xs ih =>
      rcases List.mem_cons.mp h with rfl | h
      · exact behind_place
      · exact behind_place.trans (behind_fill.trans (ih h))

/-- **No bin is overfull.** -/
theorem add_le_of_mem_zip (hxs : ∀ x ∈ xs, x ≤ capacity)
    (h : (x, p) ∈ xs.zip (places capacity s xs)) : p.2 + x ≤ capacity := by
  induction xs generalizing s with
  | nil => cases h
  | cons y xs ih =>
      rcases List.mem_cons.mp h with heq | h
      · cases heq
        exact place_add_le (hxs x List.mem_cons_self)
      · exact ih (fun z hz => hxs z (List.mem_cons_of_mem y hz)) h

/-- **Items of one bin lie one behind the other.** -/
theorem pairwise_places (capacity : Nat) (s : Nat × Nat) (xs : List Nat) :
    (xs.zip (places capacity s xs)).Pairwise
      fun a b => a.2.1 = b.2.1 → a.2.2 + a.1 ≤ b.2.2 := by
  induction xs generalizing s with
  | nil => exact List.Pairwise.nil
  | cons x xs ih =>
      refine List.Pairwise.cons ?_ (ih _)
      rintro ⟨y, q⟩ hq hbin
      have hbehind := behind_of_mem (List.of_mem_zip hq).2
      unfold Behind fill at hbehind
      dsimp only at hbin hbehind ⊢
      omega

theorem bin_le_last (h : p ∈ places capacity s xs) : p.1 ≤ (last capacity s xs).1 := by
  induction xs generalizing s with
  | nil => cases h
  | cons x xs ih =>
      rcases List.mem_cons.mp h with rfl | h
      · have hlast : Behind (fill x (place capacity x s)) (last capacity s (x :: xs)) :=
          behind_last
        unfold Behind fill at hlast
        dsimp only at hlast
        omega
      · exact ih h

/-- Offsets keep to the grain of the sizes. -/
theorem dvd_of_mem_places {d : Nat} (hxs : ∀ x ∈ xs, d ∣ x) (hs : d ∣ s.2)
    (h : p ∈ places capacity s xs) : d ∣ p.2 := by
  induction xs generalizing s with
  | nil => cases h
  | cons x xs ih =>
      have hplace : d ∣ (place capacity x s).2 := by
        unfold place
        split
        · exact hs
        · exact Nat.dvd_zero d
      rcases List.mem_cons.mp h with rfl | h
      · exact hplace
      · exact ih (fun y hy => hxs y (List.mem_cons_of_mem x hy))
          (Nat.dvd_add hplace (hxs x List.mem_cons_self)) h

end NextFit
