import Mathlib.Tactic.Common
import Mathlib.Data.List.Nodup
import Mathlib.Data.List.Perm.Basic

/-! # Recycled ids

Ids come from a list of released ones, the last released first, and from a
counter modulo `m` when that list is empty. `Tidy m live` says that the ids in
use and the released ones are all different and below the counter. It survives
until the counter has come round to `0`. -/

structure IdPool where
  next : Nat
  released : List Nat
  deriving DecidableEq, Repr

namespace IdPool
variable {m id : Nat} {live live' : List Nat} {p : IdPool}

def allocate (m : Nat) (p : IdPool) : Nat × IdPool :=
  match p.released with
  | [] => (p.next, { p with next := (p.next + 1) % m })
  | id :: rest => (id, { p with released := rest })

def release (p : IdPool) (id : Nat) : IdPool := { p with released := id :: p.released }

/-- The next id comes from the released ones, or the counter has not come round. -/
def Unwrapped (p : IdPool) : Prop := p.released = [] → p.next ≠ 0

instance (p : IdPool) : Decidable p.Unwrapped :=
  inferInstanceAs (Decidable (p.released = [] → p.next ≠ 0))

structure Tidy (m : Nat) (live : List Nat) (p : IdPool) : Prop where
  next_lt : p.next < m
  nodup : (live ++ p.released).Nodup
  below : ∀ id ∈ live ++ p.released, 0 < id ∧ (p.next = 0 ∨ id < p.next)

theorem tidy_start (hm : 1 < m) : Tidy m [] ⟨1, []⟩ where
  next_lt := hm
  nodup := List.nodup_nil
  below := fun _ h => absurd h List.not_mem_nil

theorem Tidy.perm (h : Tidy m live p) (hp : live.Perm live') : Tidy m live' p where
  next_lt := h.next_lt
  nodup := (hp.append_right p.released).nodup_iff.mp h.nodup
  below := fun id hid => h.below id ((hp.append_right p.released).mem_iff.mpr hid)

theorem Tidy.live_nodup (h : Tidy m live p) : live.Nodup := (List.nodup_append.mp h.nodup).1

theorem Tidy.pos (h : Tidy m live p) (hid : id ∈ live) : 0 < id :=
  (h.below id (List.mem_append_left _ hid)).1

theorem Tidy.not_mem_released (h : Tidy m live p) (hid : id ∈ live) : id ∉ p.released :=
  fun hr => (List.nodup_append.mp h.nodup).2.2 id hid id hr rfl

/-- An id handed out is new. -/
theorem Tidy.allocate (h : Tidy m live p) (hu : p.Unwrapped) :
    Tidy m ((p.allocate m).1 :: live) (p.allocate m).2 := by
  obtain ⟨next, released⟩ := p
  cases released with
  | nil =>
      have hn : next ≠ 0 := hu rfl
      show Tidy m (next :: live) ⟨(next + 1) % m, []⟩
      have hbelow : ∀ id ∈ live, 0 < id ∧ (next = 0 ∨ id < next) := fun id hid =>
        h.below id (List.mem_append_left _ hid)
      have hm : next < m := h.next_lt
      refine ⟨Nat.mod_lt _ (by omega), ?_, ?_⟩
      · rw [List.append_nil, List.nodup_cons]
        refine ⟨fun hmem => ?_, h.live_nodup⟩
        rcases (hbelow next hmem).2 with h0 | hlt
        · exact hn h0
        · exact Nat.lt_irrefl _ hlt
      · intro id hid
        rw [List.append_nil] at hid
        have hid' : 0 < id ∧ id < next + 1 := by
          rcases List.mem_cons.mp hid with rfl | hid
          · omega
          · have := hbelow id hid
            omega
        refine ⟨hid'.1, ?_⟩
        show (next + 1) % m = 0 ∨ id < (next + 1) % m
        rcases Nat.lt_or_ge (next + 1) m with hlt | hge
        · rw [Nat.mod_eq_of_lt hlt]
          exact Or.inr hid'.2
        · left
          rw [show next + 1 = m by omega, Nat.mod_self]
  | cons r rest =>
      have hperm : ((live ++ r :: rest)).Perm (r :: (live ++ rest)) := List.perm_middle
      exact ⟨h.next_lt, hperm.nodup_iff.mp h.nodup,
        fun id hid => h.below id (hperm.mem_iff.mpr hid)⟩

/-- A released id is no longer in use. -/
theorem Tidy.release (h : Tidy m (id :: live) p) : Tidy m live (p.release id) where
  next_lt := h.next_lt
  nodup := by
    have hperm : (live ++ id :: p.released).Perm (id :: (live ++ p.released)) := List.perm_middle
    exact hperm.nodup_iff.mpr h.nodup
  below := fun i hi => h.below i (List.perm_middle.mem_iff.mp hi)

/-- An id may also be lost. -/
theorem Tidy.forget (h : Tidy m (id :: live) p) : Tidy m live p where
  next_lt := h.next_lt
  nodup := (List.nodup_cons.mp h.nodup).2
  below := fun i hi => h.below i (List.mem_cons_of_mem _ hi)

end IdPool
