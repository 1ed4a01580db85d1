import Mathlib.Data.List.Count
import Mathlib.Data.List.Perm.Basic
import Mathlib.Logic.Function.Basic

/-! # Reference counts

Objects with a count each, and the list of the references that are held: by arrays, by
callers, or for a moment by the code that moves an object from one place to another. The
counts are balanced if each is the number of references to its object. -/

universe u

namespace RefCount

variable {α : Type u} [DecidableEq α]

/-- `object->retain()`. -/
def retain (refs : α → Nat) (a : α) : α → Nat := Function.update refs a (refs a + 1)

/-- `object->release()`. -/
def release (refs : α → Nat) (a : α) : α → Nat := Function.update refs a (refs a - 1)

/-- Every count is the number of references in the list. -/
def Balanced (refs : α → Nat) (holders : List α) : Prop := ∀ a, refs a = holders.count a

variable {refs : α → Nat} {holders holders' : List α} {a : α}

theorem Balanced.perm (h : Balanced refs holders) (hperm : holders.Perm holders') :
    Balanced refs holders' :=
  fun a => (h a).trans (hperm.count_eq a)

theorem Balanced.retain (h : Balanced refs holders) (a : α) :
    Balanced (RefCount.retain refs a) (a :: holders) := by
  intro x
  by_cases hx : x = a
  · subst hx
    rw [RefCount.retain, Function.update_self, List.count_cons_self, h]
  · rw [RefCount.retain, Function.update_of_ne hx, List.count_cons_of_ne (Ne.symm hx), h]

theorem Balanced.release (h : Balanced refs (a :: holders)) :
    Balanced (RefCount.release refs a) holders := by
  intro x
  by_cases hx : x = a
  · subst hx
    rw [RefCount.release, Function.update_self, h, List.count_cons_self, Nat.add_sub_cancel]
  · rw [RefCount.release, Function.update_of_ne hx, h, List.count_cons_of_ne (Ne.symm hx)]

/-- An array that lets go of its objects one by one. -/
theorem Balanced.flush {as : List α} (h : Balanced refs (as ++ holders)) :
    Balanced (as.foldl RefCount.release refs) holders := by
  induction as generalizing refs with
  | nil => exact h
  | cons a as ih => exact ih h.release

/-- The objects that are still there are those somebody refers to. -/
theorem Balanced.pos_iff (h : Balanced refs holders) : 0 < refs a ↔ a ∈ holders := by
  rw [h a, List.count_pos_iff]

theorem balanced_nil : Balanced (fun _ : α => 0) [] := fun _ => rfl

end RefCount
