import Mathlib.Order.Lattice
import Mathlib.Tactic.Common

/-! # Bubble sort

The two nested loops over an array that exchange neighbours until the keys descend. The
result is a permutation, and in order. -/

universe u v

namespace BubbleSort
variable {α : Type u} {β : Type v} [LinearOrder β]

/-! ## The loops -/

/-- One turn of the inner loop: two neighbours change places if the second has the larger key. -/
def compareSwap (key : α → β) (l : List α) (j : Nat) : List α :=
  match l[j]?, l[j + 1]? with
  | some a, some b => if key a < key b then (l.set j b).set (j + 1) a else l
  | _, _ => l

/-- The inner loop, so many turns. -/
def pass (key : α → β) (l : List α) (n : Nat) : List α := (List.range n).foldl (compareSwap key) l

/-- The outer loop: every pass is one turn shorter. -/
def sort (key : α → β) (l : List α) : List α :=
  (List.range (l.length - 1)).foldl (fun l i => pass key l (l.length - i - 1)) l

/-! ## One turn -/

section turn
variable {key : α → β} {a b : α} {l : List α}

theorem compareSwap_nil (key : α → β) (j : Nat) : compareSwap key [] j = [] := rfl

theorem compareSwap_single (key : α → β) (a : α) (j : Nat) : compareSwap key [a] j = [a] := by
  cases j <;> rfl

theorem compareSwap_zero (key : α → β) (a b : α) (l : List α) :
    compareSwap key (a :: b :: l) 0 = if key a < key b then b :: a :: l else a :: b :: l := rfl

/-- Behind the first entry. -/
theorem compareSwap_succ (key : α → β) (a : α) (l : List α) (j : Nat) :
    compareSwap key (a :: l) (j + 1) = a :: compareSwap key l j := by
  simp only [compareSwap, List.getElem?_cons_succ, List.set_cons_succ]
  split
  · split <;> rfl
  · rfl

theorem compareSwap_perm (key : α → β) (l : List α) (j : Nat) : (compareSwap key l j).Perm l := by
  induction l generalizing j with
  | nil => rw [compareSwap_nil]
  | cons a l ih =>
      cases j with
      | succ j =>
          rw [compareSwap_succ]
          exact (ih j).cons a
      | zero =>
          cases l with
          | nil => rw [compareSwap_single]
          | cons b l =>
              rw [compareSwap_zero]
              split
              · exact List.Perm.swap a b l
              · exact List.Perm.refl _

end turn

/-! ## One pass -/

theorem foldl_compareSwap_succ (key : α → β) (a : α) (js : List Nat) (l : List α) :
    js.foldl (fun l j => compareSwap key l (j + 1)) (a :: l) =
      a :: js.foldl (compareSwap key) l := by
  induction js generalizing l with
  | nil => rfl
  | cons j js ih => rw [List.foldl_cons, compareSwap_succ, ih, List.foldl_cons]

/-- The smaller of the first two is carried on. -/
theorem pass_succ (key : α → β) (a b : α) (l : List α) (n : Nat) :
    pass key (a :: b :: l) (n + 1) =
      if key a < key b then b :: pass key (a :: l) n else a :: pass key (b :: l) n := by
  rw [pass, List.range_succ_eq_map, List.foldl_cons, List.foldl_map, compareSwap_zero]
  split
  · exact foldl_compareSwap_succ key b _ (a :: l)
  · exact foldl_compareSwap_succ key a _ (b :: l)

theorem foldl_perm {ι : Type} {f : List α → ι → List α} (hf : ∀ l i, (f l i).Perm l) (is : List ι)
    (l : List α) : (is.foldl f l).Perm l := by
  induction is generalizing l with
  | nil => exact List.Perm.refl l
  | cons i is ih => exact (ih (f l i)).trans (hf l i)

theorem pass_perm (key : α → β) (l : List α) (n : Nat) : (pass key l n).Perm l :=
  foldl_perm (compareSwap_perm key) _ l

/-- A pass leaves the smallest of what it has seen where it ends, and does not touch the rest. -/
theorem pass_spec (key : α → β) {n : Nat} {l : List α} (h : n < l.length) :
    ∃ front last, pass key l n = front ++ last :: l.drop (n + 1) ∧ front.length = n ∧
      (front ++ [last]).Perm (l.take (n + 1)) ∧ ∀ x ∈ front, key last ≤ key x := by
  induction n generalizing l with
  | zero =>
      obtain ⟨a, l, rfl⟩ := List.exists_cons_of_length_pos h
      exact ⟨[], a, rfl, rfl, List.Perm.refl _, fun _ hx => absurd hx List.not_mem_nil⟩
  | succ n ih =>
      match l, h with
      | a :: b :: l, h =>
          -- of the first two, `y` is put down and `x` carried on
          have hstep (x y : α) (hxy : key x ≤ key y) : ∃ front last,
              y :: pass key (x :: l) n = front ++ last :: (x :: l).drop (n + 1) ∧
                front.length = n + 1 ∧ (front ++ [last]).Perm (y :: (x :: l).take (n + 1)) ∧
                ∀ z ∈ front, key last ≤ key z := by
            obtain ⟨front, last, heq, hlength, hperm, hle⟩ :=
              ih (l := x :: l) (Nat.lt_of_succ_lt_succ h)
            refine ⟨y :: front, last, by rw [heq]; rfl, by rw [List.length_cons, hlength],
              hperm.cons y, fun z hz => ?_⟩
            rcases List.mem_cons.mp hz with rfl | hz
            · refine le_trans ?_ hxy
              rcases List.mem_append.mp (hperm.mem_iff.mpr List.mem_cons_self) with hx | hx
              · exact hle x hx
              · rw [List.mem_singleton.mp hx]
            · exact hle z hz
          rw [pass_succ]
          split
          next hab =>
            obtain ⟨front, last, heq, hlength, hperm, hle⟩ := hstep a b (le_of_lt hab)
            exact ⟨front, last, heq, hlength, hperm.trans (List.Perm.swap a b _), hle⟩
          next hab => exact hstep b a (not_lt.mp hab)

/-! ## All passes -/

/-- After so many passes as many entries at the end are in order, and none in front of them has
a smaller key. -/
theorem passes_spec (key : α → β) {l : List α} {k : Nat} (h : k < l.length) :
    ∃ front back,
      (List.range k).foldl (fun l i => pass key l (l.length - i - 1)) l = front ++ back ∧
      back.length = k ∧ (front ++ back).Perm l ∧ back.Pairwise (fun a b => key b ≤ key a) ∧
      ∀ x ∈ front, ∀ y ∈ back, key y ≤ key x := by
  induction k with
  | zero =>
      exact ⟨l, [], (List.append_nil l).symm, rfl, by rw [List.append_nil], List.Pairwise.nil,
        fun _ _ _ hy => absurd hy List.not_mem_nil⟩
  | succ k ih =>
      obtain ⟨front, back, heq, hlength, hperm, hsorted, hle⟩ := ih (Nat.lt_of_succ_lt h)
      have htotal : front.length + back.length = l.length := by
        rw [← List.length_append, hperm.length_eq]
      have hturns : (front ++ back).length - k - 1 = front.length - 1 := by
        rw [hperm.length_eq]
        omega
      obtain ⟨first, last, hpass, hfirst, hfront, hlast⟩ :=
        pass_spec key (n := front.length - 1) (l := front ++ back) (by rw [hperm.length_eq]; omega)
      have hsucc : front.length - 1 + 1 = front.length := by omega
      rw [hsucc, List.drop_left] at hpass
      rw [hsucc, List.take_left] at hfront
      refine ⟨first, last :: back, ?_, ?_, ?_, ?_, ?_⟩
      · rw [List.range_succ, List.foldl_append, heq, List.foldl_cons, List.foldl_nil, hturns, hpass]
      · rw [List.length_cons, hlength]
      · rw [List.append_cons]
        exact (hfront.append_right back).trans hperm
      · refine List.Pairwise.cons (fun y hy => hle last ?_ y hy) hsorted
        exact hfront.mem_iff.mp (List.mem_append_right first List.mem_cons_self)
      · intro x hx y hy
        rcases List.mem_cons.mp hy with rfl | hy
        · exact hlast x hx
        · exact hle x (hfront.mem_iff.mp (List.mem_append_left _ hx)) y hy

theorem sort_perm (key : α → β) (l : List α) : (sort key l).Perm l :=
  foldl_perm (fun l i => pass_perm key l (l.length - i - 1)) _ l

/-- The keys descend. -/
theorem pairwise_sort (key : α → β) (l : List α) :
    (sort key l).Pairwise fun a b => key b ≤ key a := by
  cases l with
  | nil => exact List.Pairwise.nil
  | cons a l =>
      obtain ⟨front, back, heq, hlength, hperm, hsorted, hle⟩ :=
        passes_spec key (l := a :: l) (k := l.length) (Nat.lt_succ_self _)
      have hone : front.length = 1 := by
        have htotal := hperm.length_eq
        rw [List.length_append, List.length_cons] at htotal
        omega
      obtain ⟨x, rfl⟩ := List.length_eq_one_iff.mp hone
      show ((List.range l.length).foldl _ (a :: l)).Pairwise _
      rw [heq]
      exact List.Pairwise.cons (fun y hy => hle x List.mem_cons_self y hy) hsorted

end BubbleSort
