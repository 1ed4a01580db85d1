import Mathlib.Logic.Function.Basic
import Mathlib.Tactic.Common

/-! # A free list threaded through an array

`head` is the first free index and `next` the array that links the others.
Indices are taken from and returned to the front, so what is returned in the
reverse of the order in which it was taken leaves the list as it was. -/

structure FreeList where
  head : Option Nat
  next : Nat → Option Nat

namespace FreeList
variable {l l' : FreeList} {i : Nat}

/-- All indices below `n`, in order. -/
def upTo (n : Nat) : FreeList where
  head := some 0
  next := fun i => if i + 1 < n then some (i + 1) else none

def pop (l : FreeList) : Option (Nat × FreeList) :=
  l.head.map fun i => (i, { l with head := l.next i })

def push (l : FreeList) (i : Nat) : FreeList where
  head := some i
  next := Function.update l.next i l.head

theorem pop_eq_some (h : l.pop = some (i, l')) :
    l.head = some i ∧ l' = { l with head := l.next i } := by
  obtain ⟨j, hj, heq⟩ := Option.map_eq_some_iff.mp h
  obtain ⟨rfl, rfl⟩ := Prod.mk.injEq .. ▸ heq
  exact ⟨hj, rfl⟩

/-- Returning what was taken last undoes the taking. -/
theorem push_of_pop (h : l.pop = some (i, l')) : l'.push i = l := by
  obtain ⟨hhead, rfl⟩ := pop_eq_some h
  obtain ⟨head, next⟩ := l
  subst hhead
  simp only [push, Function.update_eq_self]

end FreeList

/-! ## With a mark for the end

The same list where links are plain numbers, and one number that is no index
stands for the end. -/

structure MarkedList where
  head : Nat
  next : Nat → Nat

namespace MarkedList

/-- The links lead from `i` through `path` to the end mark. -/
def Leads (mark : Nat) (next : Nat → Nat) : Nat → List Nat → Prop
  | i, [] => i = mark
  | i, j :: js => i ≠ mark ∧ i = j ∧ Leads mark next (next i) js

/-- The list consists of the indices in `path`, in this order. -/
def Visits (mark : Nat) (l : MarkedList) (path : List Nat) : Prop :=
  Leads mark l.next l.head path

end MarkedList

namespace FreeList
variable {l : FreeList} {mark : Nat}

/-- The list with its ends marked. -/
def marked (mark : Nat) (l : FreeList) : MarkedList where
  head := l.head.getD mark
  next := fun i => (l.next i).getD mark

/-- From any of its indices the full list leads through the later ones. -/
theorem leads_upTo {n : Nat} (hmark : n ≤ mark) (k : Nat) {i : Nat} (hi : i + k + 1 = n) :
    MarkedList.Leads mark ((upTo n).marked mark).next i (List.range' i (k + 1)) := by
  induction k generalizing i with
  | zero =>
      have hend : ((upTo n).marked mark).next i = mark := by
        show (if i + 1 < n then some (i + 1) else none).getD mark = mark
        rw [if_neg (by omega)]
        rfl
      exact ⟨by omega, rfl, hend⟩
  | succ k ih =>
      have hnext : ((upTo n).marked mark).next i = i + 1 := by
        show (if i + 1 < n then some (i + 1) else none).getD mark = i + 1
        rw [if_pos (by omega)]
        rfl
      refine ⟨by omega, rfl, ?_⟩
      rw [hnext]
      exact ih (by omega)

/-- The full list visits every index once. -/
theorem visits_upTo {n : Nat} (h : 0 < n) (hmark : n ≤ mark) :
    ((upTo n).marked mark).Visits mark (List.range n) := by
  obtain ⟨k, rfl⟩ := Nat.exists_eq_add_of_lt h
  rw [Nat.zero_add] at hmark ⊢
  rw [List.range_eq_range']
  exact leads_upTo hmark k (Nat.zero_add _ ▸ rfl)

end FreeList
