import Mathlib.Data.List.Nodup
import VMQemuVGA.Lib.Pool

/-! # Pointer arrays with a count beside them

A pool as code keeps it: an array of pointers, and a variable that is meant to
say how many of them are not null. Nothing ties the two together but the
operations; the array grows by being copied into a larger one, where the new
pointer goes to the place the count says.

A `Pool` is an array whose count is right. On those the operations here are the
operations of `Pool`, which is how their lemmas are come by. -/

universe u v

/-- Slots, and a count. -/
structure PointerArray (ρ : Type u) where
  slots : List (Option ρ)
  count : Nat

namespace PointerArray
variable {ρ : Type u} {σ : Type v}

/-! ## Operations -/

/-- `n` null slots. -/
def empty (n : Nat) : PointerArray ρ := ⟨List.replicate n none, 0⟩

/-- What the slots hold, in their order. -/
def entries (p : PointerArray ρ) : List ρ := p.slots.filterMap id

/-- The first entry that satisfies `q`. -/
def find? (p : PointerArray ρ) (q : ρ → Bool) : Option ρ := p.entries.find? q

/-- The slots in a zeroed array of `n`. -/
def copied (slots : List (Option ρ)) (n : Nat) : List (Option ρ) :=
  slots ++ List.replicate (n - slots.length) none

/-- Store `x` in the first null slot; where there is none, in the slot the
count names of the array of `newCap` slots everything is copied to. -/
def add (p : PointerArray ρ) (x : ρ) (newCap : Option Nat) : Bool × PointerArray ρ :=
  match Pool.fill p.slots x with
  | some slots => (true, ⟨slots, p.count + 1⟩)
  | none =>
      match newCap with
      | none => (false, p)
      | some n => (true, ⟨(copied p.slots n).set p.count (some x), p.count + 1⟩)

/-- Null the slot of the first entry that satisfies `q`, if there is one. -/
def remove (p : PointerArray ρ) (q : ρ → Bool) : PointerArray ρ :=
  if p.entries.any q then ⟨Pool.null q p.slots, p.count - 1⟩ else p

/-- Null all slots. -/
def clear (p : PointerArray ρ) : PointerArray ρ := ⟨p.slots.map fun _ => none, 0⟩

/-- Go over `n` slots, each as it is when its turn comes, with a body for those
that are not null. -/
def forSlots (array : σ → PointerArray ρ) (body : Nat → ρ → σ → σ) (n : Nat) (s : σ) : σ :=
  (List.range n).foldl
    (fun s i => match (array s).slots[i]?.join with
      | none => s
      | some x => body i x s) s

/-! ## Arrays that are pools -/

/-- The array of a pool. -/
def ofPool (q : Pool ρ) : PointerArray ρ := ⟨q.slots, q.count⟩

/-- The count is right. -/
def Counted (p : PointerArray ρ) : Prop := p.count = p.entries.length

theorem counted_iff_ofPool {p : PointerArray ρ} : p.Counted ↔ ∃ q, p = ofPool q := by
  constructor
  · intro h
    exact ⟨⟨p.slots, p.count, h⟩, rfl⟩
  · rintro ⟨q, rfl⟩
    exact q.count_eq

@[simp] theorem entries_ofPool (q : Pool ρ) : (ofPool q).entries = q.entries := rfl

theorem add_of_fill {p : PointerArray ρ} {x : ρ} {slots : List (Option ρ)}
    (h : Pool.fill p.slots x = some slots) (newCap : Option Nat) :
    p.add x newCap = (true, ⟨slots, p.count + 1⟩) := by
  unfold add
  rw [h]

theorem add_of_full {p : PointerArray ρ} {x : ρ} (h : Pool.fill p.slots x = none) :
    p.add x none = (false, p) ∧ ∀ n, p.add x (some n) =
      (true, ⟨(copied p.slots n).set p.count (some x), p.count + 1⟩) := by
  unfold add
  rw [h]
  exact ⟨rfl, fun n => rfl⟩

/-- Storing at the count is right where the count is. -/
theorem add_ofPool (q : Pool ρ) (x : ρ) {newCap : Option Nat}
    (hgrow : ∀ n, newCap = some n → q.slots.length < n) :
    (ofPool q).add x newCap = ((q.add x newCap).isSome, ofPool ((q.add x newCap).getD q)) := by
  unfold Pool.add
  split
  · next slots hfill => exact add_of_fill hfill newCap
  · next hfill =>
    obtain ⟨hnone, hsome⟩ := add_of_full (p := ofPool q) hfill
    cases newCap with
    | none => exact hnone
    | some n =>
        dsimp only
        rw [hsome n, dif_pos (hgrow n rfl)]
        rfl

theorem null_of_forall_not {f : ρ → Bool} {slots : List (Option ρ)}
    (h : ∀ x ∈ slots.filterMap id, ¬ f x = true) : Pool.null f slots = slots := by
  induction slots with
  | nil => rfl
  | cons o slots ih =>
      cases o with
      | none => exact congrArg (none :: ·) (ih h)
      | some y =>
          obtain ⟨hy, hslots⟩ := List.forall_mem_cons.mp h
          rw [Pool.null, if_neg hy]
          exact congrArg (some y :: ·) (ih hslots)

theorem remove_ofPool (q : Pool ρ) (f : ρ → Bool) : (ofPool q).remove f = ofPool (q.remove f) := by
  have hcount : (q.remove f).count = (q.entries.eraseP f).length := by
    rw [(q.remove f).count_eq, ← Pool.entries_remove]
    rfl
  unfold remove
  split
  · next hany =>
    obtain ⟨x, hx, hfx⟩ := List.any_eq_true.mp hany
    have hlen : (q.remove f).count = q.count - 1 := by
      rw [hcount, List.length_eraseP_of_mem (l := q.entries) hx hfx, q.count_eq]
      rfl
    show (⟨Pool.null f q.slots, q.count - 1⟩ : PointerArray ρ) = _
    rw [← hlen]
    rfl
  · next hany =>
    have hnot : ∀ x ∈ q.entries, ¬ f x = true := by
      intro x hx hfx
      exact hany (List.any_eq_true.mpr ⟨x, hx, hfx⟩)
    have hlen : (q.remove f).count = q.count := by
      rw [hcount, List.eraseP_of_forall_not hnot, q.count_eq]
      rfl
    show (⟨q.slots, q.count⟩ : PointerArray ρ) = ⟨Pool.null f q.slots, (q.remove f).count⟩
    rw [hlen, null_of_forall_not hnot]

@[simp] theorem entries_clear (p : PointerArray ρ) : p.clear.entries = [] := by
  unfold clear entries
  rw [List.filterMap_map]
  exact List.filterMap_eq_nil_iff.mpr fun _ _ => rfl

/-! ## Slots -/

theorem mem_entries {p : PointerArray ρ} {x : ρ} : x ∈ p.entries ↔ some x ∈ p.slots := by
  unfold entries
  simp

/-- Filling a slot leaves the taken ones as they are. -/
theorem getElem?_fill {slots slots' : List (Option ρ)} {x y : ρ} {i : Nat}
    (h : Pool.fill slots x = some slots') (hi : slots[i]? = some (some y)) :
    slots'[i]? = some (some y) := by
  induction slots generalizing slots' i with
  | nil => cases h
  | cons o slots ih =>
      cases o with
      | none =>
          cases h
          cases i with
          | zero => cases hi
          | succ i => exact hi
      | some z =>
          rw [Pool.fill, Option.map_eq_some_iff] at h
          obtain ⟨rest, hrest, rfl⟩ := h
          cases i with
          | zero => exact hi
          | succ i =>
              show rest[i]? = some (some y)
              exact ih hrest hi

/-- **Adding keeps.** Where the count is right, no taken slot is written. -/
theorem getElem?_add {p : PointerArray ρ} {x y : ρ} {newCap : Option Nat} {i : Nat}
    (hp : p.Counted) (hi : p.slots[i]? = some (some y)) :
    (p.add x newCap).2.slots[i]? = some (some y) := by
  cases hfill : Pool.fill p.slots x with
  | some slots =>
      rw [add_of_fill hfill]
      exact getElem?_fill hfill hi
  | none =>
      obtain ⟨hnone, hsome⟩ := add_of_full hfill
      cases newCap with
      | none =>
          rw [hnone]
          exact hi
      | some n =>
          -- there is no null slot, so the count is the number of slots
          have hcount : p.count = p.slots.length := by
            have hmap := congrArg List.length (Pool.filterMap_of_fill_eq_none hfill)
            rw [List.length_map] at hmap
            exact hp.trans hmap.symm
          have hlt : i < p.slots.length := (List.getElem?_eq_some_iff.mp hi).1
          have hne : p.count ≠ i := by omega
          rw [hsome n]
          show ((copied p.slots n).set p.count (some x))[i]? = some (some y)
          unfold copied
          rw [List.getElem?_set_ne hne, List.getElem?_append_left hlt]
          exact hi

theorem length_fill {slots slots' : List (Option ρ)} {x : ρ} (h : Pool.fill slots x = some slots') :
    slots'.length = slots.length := by
  induction slots generalizing slots' with
  | nil => cases h
  | cons o slots ih =>
      cases o with
      | none =>
          cases h
          rfl
      | some y =>
          rw [Pool.fill, Option.map_eq_some_iff] at h
          obtain ⟨rest, hrest, rfl⟩ := h
          exact congrArg (· + 1) (ih hrest)

/-- The array stays or is the larger one. -/
theorem length_add (p : PointerArray ρ) (x : ρ) {newCap : Option Nat}
    (hgrow : ∀ n, newCap = some n → p.slots.length < n) :
    (p.add x newCap).2.slots.length = p.slots.length ∨
      newCap = some (p.add x newCap).2.slots.length := by
  cases hfill : Pool.fill p.slots x with
  | some slots =>
      rw [add_of_fill hfill]
      exact Or.inl (length_fill hfill)
  | none =>
      obtain ⟨hnone, hsome⟩ := add_of_full hfill
      cases newCap with
      | none =>
          rw [hnone]
          exact Or.inl rfl
      | some n =>
          have hlt : p.slots.length < n := hgrow n rfl
          refine Or.inr (congrArg some ?_)
          rw [hsome n]
          show n = ((copied p.slots n).set p.count (some x)).length
          unfold copied
          rw [List.length_set, List.length_append, List.length_replicate]
          omega

theorem length_null (f : ρ → Bool) (slots : List (Option ρ)) :
    (Pool.null f slots).length = slots.length := by
  induction slots with
  | nil => rfl
  | cons o slots ih =>
      cases o with
      | none => exact congrArg (· + 1) ih
      | some y =>
          rw [Pool.null]
          split
          · rfl
          · exact congrArg (· + 1) ih

@[simp] theorem length_remove (p : PointerArray ρ) (f : ρ → Bool) :
    (p.remove f).slots.length = p.slots.length := by
  unfold remove
  split
  · exact length_null f p.slots
  · rfl

@[simp] theorem length_clear (p : PointerArray ρ) : p.clear.slots.length = p.slots.length :=
  List.length_map _

/-- An entry that is there once is in one slot. -/
theorem count_slots [DecidableEq ρ] {p : PointerArray ρ} {x : ρ} (hp : p.entries.Nodup)
    (hx : x ∈ p.entries) : p.slots.count (some x) = 1 := by
  have hcount : ∀ slots : List (Option ρ),
      slots.count (some x) = (slots.filterMap id).count x := by
    intro slots
    induction slots with
    | nil => rfl
    | cons o slots ih =>
        cases o with
        | none => simpa using ih
        | some y => simp [List.count_cons, ih]
  rw [hcount]
  exact List.count_eq_one_of_mem hp hx

/-! ## Going over the slots -/

/-- **Loop rule.** What the body keeps, for whatever entry it is run on, the
loop keeps. -/
theorem forSlots_induct {array : σ → PointerArray ρ} {body : Nat → ρ → σ → σ} {P : σ → Prop}
    (hbody : ∀ i x s, P s → x ∈ (array s).entries → P (body i x s)) (n : Nat) {s : σ} (h : P s) :
    P (forSlots array body n s) := by
  unfold forSlots
  generalize List.range n = l
  induction l generalizing s with
  | nil => exact h
  | cons i l ih =>
      rw [List.foldl_cons]
      apply ih
      split
      · exact h
      · next x hx =>
        apply hbody i x s h
        rw [Option.join_eq_some_iff] at hx
        exact mem_entries.mpr (List.mem_of_getElem? hx)

end PointerArray
