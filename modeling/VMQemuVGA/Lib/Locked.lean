import VMQemuVGA.Lib.Machine
import VMQemuVGA.Lib.LockTrace

/-! # Runs of calls that take one lock

Calls come one after the other. Each finds the data as the one before left it, and the
lock as that one left it, too. -/

universe u v

/-- Data behind a lock. -/
structure Locked (σ : Type u) where
  data : σ
  held : Bool
  /-- a call waits for the lock it holds itself -/
  waiting : Bool

namespace Locked
variable {σ : Type u} {α : Type v} (events : σ → α → List LockEvent) (after : σ → α → σ)

/-- Behind a free lock. -/
def free (data : σ) : Locked σ := ⟨data, false, false⟩

/-- A call that waits for itself is the last one. -/
def step (s : Locked σ) (a : α) : Option (Locked σ) :=
  if s.waiting then none
  else
    match LockEvent.run s.held (events s.data a) with
    | none => some { s with waiting := true }
    | some held => some ⟨after s.data a, held, false⟩

def machine (data : σ) : Machine (Locked σ) α := ⟨free data, step events after⟩

/-- Every call has returned, and the lock is free. -/
def Free (s : Locked σ) : Prop := s.held = false ∧ s.waiting = false

theorem step_free_iff {s t : Locked σ} {a : α} (hs : s.Free)
    (h : step events after s a = some t) : t.Free ↔ LockEvent.Balanced (events s.data a) := by
  simp only [step, hs.1, hs.2, Bool.false_eq_true, if_false] at h
  rw [LockEvent.Balanced]
  cases hrun : LockEvent.run false (events s.data a) with
  | none =>
      rw [hrun] at h
      cases h
      apply iff_of_false
      · intro hfree
        cases hfree.2
      · intro hbalanced
        cases hbalanced
  | some held =>
      rw [hrun] at h
      cases h
      rw [Option.some_inj]
      exact ⟨fun hfree => hfree.1, fun hheld => ⟨hheld, rfl⟩⟩

/-- After a call that comes back to a free lock, the data is what the call made of it. -/
theorem step_free_and_iff {P : σ → Prop} {s t : Locked σ} {a : α} (hs : s.Free)
    (h : step events after s a = some t) :
    t.Free ∧ P t.data ↔ LockEvent.Balanced (events s.data a) ∧ P (after s.data a) := by
  rw [step_free_iff events after hs h]
  refine and_congr_right fun hbalanced => ?_
  simp only [step, hs.1, hs.2, Bool.false_eq_true, if_false] at h
  rw [LockEvent.Balanced] at hbalanced
  rw [hbalanced] at h
  cases h
  rfl

/-- The lock is free between any two calls exactly if each comes back to a free lock. -/
theorem always_iff_balanced (data : σ) (as : List α) :
    (machine events after data).Always Free (free data) as ↔
      (machine events after data).Along (fun s a => LockEvent.Balanced (events s.data a))
        (free data) as :=
  (machine events after data).always_iff_along (J := fun _ => True) (fun _ _ _ _ _ => trivial)
    (fun _ _ _ _ hs h => step_free_iff events after hs h) trivial ⟨rfl, rfl⟩

end Locked
