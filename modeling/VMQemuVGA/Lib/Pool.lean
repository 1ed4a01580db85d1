import Mathlib.Tactic.Common
import Mathlib.Data.List.Nodup
import Mathlib.Data.List.Perm.Basic

/-! # Growable pools

An array of pointers, null where a slot is free, together with the number of
pointers in it. A new entry takes the first null slot; a full pool is copied
into a larger array if there is one to be had.

`entries` forgets the null slots. What an operation does is said on `entries`,
up to order where the slot an entry lands in does not matter. -/

universe u v

/-- Slots and how many of them are taken. -/
structure Pool (ρ : Type u) where
  slots : List (Option ρ)
  count : Nat
  count_eq : count = (slots.filterMap id).length

namespace Pool
variable {ρ : Type u} {σ τ β : Type v}

/-! ## Slots -/

/-- Put `x` into the first null slot, if there is one. -/
def fill : List (Option ρ) → ρ → Option (List (Option ρ))
  | [], _ => none
  | none :: slots, x => some (some x :: slots)
  | some y :: slots, x => (fill slots x).map (some y :: ·)

/-- Null the first slot whose entry satisfies `q`. -/
def null (q : ρ → Bool) : List (Option ρ) → List (Option ρ)
  | [] => []
  | none :: slots => none :: null q slots
  | some y :: slots => if q y then none :: slots else some y :: null q slots

/-- Change the first entry that satisfies `q`. -/
def change (q : ρ → Bool) (f : ρ → ρ) : List (Option ρ) → List (Option ρ)
  | [] => []
  | none :: slots => none :: change q f slots
  | some y :: slots => if q y then some (f y) :: slots else some y :: change q f slots

/-- Go over the slots with a state, and null those whose entry `visit` drops. -/
def sweepSlots (visit : σ → ρ → Bool × σ) : σ → List (Option ρ) → σ × List (Option ρ)
  | s, [] => (s, [])
  | s, none :: slots =>
      let (t, rest) := sweepSlots visit s slots
      (t, none :: rest)
  | s, some y :: slots =>
      let (drop, s') := visit s y
      let (t, rest) := sweepSlots visit s' slots
      (t, (if drop then none else some y) :: rest)

theorem filterMap_fill_eq {slots slots' : List (Option ρ)} {x : ρ}
    (h : fill slots x = some slots') :
    ∃ l₁ l₂, slots.filterMap id = l₁ ++ l₂ ∧ slots'.filterMap id = l₁ ++ x :: l₂ := by
  induction slots generalizing slots' with
  | nil => cases h
  | cons o slots ih =>
      cases o with
      | none =>
          cases h
          exact ⟨[], slots.filterMap id, rfl, rfl⟩
      | some y =>
          rw [fill, Option.map_eq_some_iff] at h
          obtain ⟨rest, hrest, rfl⟩ := h
          obtain ⟨l₁, l₂, h₁, h₂⟩ := ih hrest
          exact ⟨y :: l₁, l₂, congrArg (y :: ·) h₁, congrArg (y :: ·) h₂⟩

theorem filterMap_fill {slots slots' : List (Option ρ)} {x : ρ} (h : fill slots x = some slots') :
    (slots'.filterMap id).Perm (x :: slots.filterMap id) := by
  obtain ⟨l₁, l₂, h₁, h₂⟩ := filterMap_fill_eq h
  rw [h₁, h₂]
  exact List.perm_middle

/-- Only a pool without null slots does not take an entry. -/
theorem filterMap_of_fill_eq_none {slots : List (Option ρ)} {x : ρ} (h : fill slots x = none) :
    slots = (slots.filterMap id).map some := by
  induction slots with
  | nil => rfl
  | cons o slots ih =>
      cases o with
      | none => cases h
      | some y =>
          rw [fill, Option.map_eq_none_iff] at h
          exact congrArg (some y :: ·) (ih h)

/-- Behind the entries of a full pool there is room in a larger array. -/
theorem filterMap_grow {slots : List (Option ρ)} {x : ρ} {n : Nat} (h : fill slots x = none)
    (hn : slots.length < n) :
    ((slots ++ List.replicate (n - slots.length) none).set (slots.filterMap id).length
      (some x)).filterMap id = slots.filterMap id ++ [x] := by
  have hlen : (slots.filterMap id).length = slots.length := by
    conv_rhs => rw [filterMap_of_fill_eq_none h, List.length_map]
  obtain ⟨k, hk⟩ : ∃ k, n - slots.length = k + 1 := ⟨n - slots.length - 1, by omega⟩
  rw [hlen, hk, List.set_append_right _ _ (Nat.le_refl _), Nat.sub_self, List.replicate_succ,
    List.set_cons_zero, List.filterMap_append]
  refine congrArg (slots.filterMap id ++ x :: ·) ?_
  exact List.filterMap_replicate_of_none rfl

theorem fill_eq_none_iff {slots : List (Option ρ)} {x : ρ} :
    fill slots x = none ↔ slots.any Option.isNone = false := by
  induction slots with
  | nil => exact iff_of_true rfl rfl
  | cons o slots ih =>
      cases o with
      | none => exact iff_of_false (Option.some_ne_none _) Bool.noConfusion
      | some y => rw [fill, Option.map_eq_none_iff, ih, List.any_cons, Option.isNone_some,
          Bool.false_or]

theorem filterMap_null (q : ρ → Bool) (slots : List (Option ρ)) :
    (null q slots).filterMap id = (slots.filterMap id).eraseP q := by
  induction slots with
  | nil => rfl
  | cons o slots ih =>
      cases o with
      | none => exact ih
      | some y =>
          rw [null]
          by_cases hq : q y
          · rw [if_pos hq]
            exact (List.eraseP_cons_of_pos hq).symm
          · rw [if_neg hq]
            exact (congrArg (y :: ·) ih).trans (List.eraseP_cons_of_neg hq).symm

/-- What `f` does not touch stays, entry by entry. -/
theorem map_filterMap_change {q : ρ → Bool} {f : ρ → ρ} {g : ρ → β} (h : ∀ x, g (f x) = g x)
    (slots : List (Option ρ)) :
    ((change q f slots).filterMap id).map g = (slots.filterMap id).map g := by
  induction slots with
  | nil => rfl
  | cons o slots ih =>
      cases o with
      | none => exact ih
      | some y =>
          rw [change]
          split
          · exact congrArg (· :: (slots.filterMap id).map g) (h y)
          · exact congrArg (g y :: ·) ih

/-- The first entry that satisfies `q` is changed, where it stands. -/
theorem filterMap_change_of_find? {q : ρ → Bool} {f : ρ → ρ} {slots : List (Option ρ)} {x : ρ}
    (h : (slots.filterMap id).find? q = some x) :
    ∃ l₁ l₂, slots.filterMap id = l₁ ++ x :: l₂ ∧
      (change q f slots).filterMap id = l₁ ++ f x :: l₂ := by
  induction slots with
  | nil => cases h
  | cons o slots ih =>
      cases o with
      | none => exact ih h
      | some y =>
          have hcons : ((some y :: slots).filterMap id) = y :: slots.filterMap id := rfl
          rw [hcons, List.find?_cons] at h
          rw [hcons, change]
          by_cases hq : q y
          · simp only [hq, Option.some.injEq] at h
            subst h
            rw [if_pos hq]
            exact ⟨[], slots.filterMap id, rfl, rfl⟩
          · simp only [hq] at h
            obtain ⟨l₁, l₂, h₁, h₂⟩ := ih h
            rw [if_neg hq]
            exact ⟨y :: l₁, l₂, congrArg (y :: ·) h₁, congrArg (y :: ·) h₂⟩

theorem mem_filterMap_change_of_find? {q : ρ → Bool} {f : ρ → ρ} {slots : List (Option ρ)}
    {x : ρ} (h : (slots.filterMap id).find? q = some x) :
    f x ∈ (change q f slots).filterMap id := by
  obtain ⟨l₁, l₂, -, hchange⟩ := filterMap_change_of_find? (f := f) h
  rw [hchange]
  exact List.mem_append_right l₁ List.mem_cons_self

theorem sweepSlots_fst (visit : σ → ρ → Bool × σ) (s : σ) (slots : List (Option ρ)) :
    (sweepSlots visit s slots).1 = (slots.filterMap id).foldl (fun s x => (visit s x).2) s := by
  induction slots generalizing s with
  | nil => rfl
  | cons o slots ih =>
      cases o with
      | none => exact ih s
      | some y => exact ih (visit s y).2

/-- A visit with more to its state drops the same entries. -/
theorem sweepSlots_proj {π : τ → σ} {visit' : τ → ρ → Bool × τ} {visit : σ → ρ → Bool × σ}
    (h : ∀ s x, ((visit' s x).1, π (visit' s x).2) = visit (π s) x) (s : τ)
    (slots : List (Option ρ)) :
    (π (sweepSlots visit' s slots).1, (sweepSlots visit' s slots).2) =
      sweepSlots visit (π s) slots := by
  induction slots generalizing s with
  | nil => rfl
  | cons o slots ih =>
      cases o with
      | none =>
          have hrest := ih s
          simp only [sweepSlots, ← hrest]
      | some y =>
          have hrest := ih (visit' s y).2
          simp only [sweepSlots, ← h s y, ← hrest]

theorem sublist_sweepSlots (visit : σ → ρ → Bool × σ) (s : σ) (slots : List (Option ρ)) :
    ((sweepSlots visit s slots).2.filterMap id).Sublist (slots.filterMap id) := by
  induction slots generalizing s with
  | nil => exact .refl _
  | cons o slots ih =>
      cases o with
      | none => exact ih s
      | some y =>
          unfold sweepSlots
          dsimp only
          split
          · exact (ih (visit s y).2).cons y
          · exact (ih (visit s y).2).cons_cons y

theorem filterMap_sweepSlots {visit : σ → ρ → Bool × σ} {d : ρ → Bool}
    (h : ∀ s x, (visit s x).1 = d x) (s : σ) (slots : List (Option ρ)) :
    (sweepSlots visit s slots).2.filterMap id = (slots.filterMap id).filter fun x => !d x := by
  induction slots generalizing s with
  | nil => rfl
  | cons o slots ih =>
      cases o with
      | none => exact ih s
      | some y =>
          have hcons : ((some y :: slots).filterMap id) = y :: slots.filterMap id := rfl
          rw [hcons, List.filter_cons, ← ih (visit s y).2]
          simp only [sweepSlots, h]
          cases d y <;> rfl

/-! ## Operations -/

/-- The pool these slots make. -/
def ofSlots (slots : List (Option ρ)) : Pool ρ := ⟨slots, (slots.filterMap id).length, rfl⟩

/-- A pool of `n` null slots. -/
def empty (n : Nat) : Pool ρ where
  slots := List.replicate n none
  count := 0
  count_eq := by rw [List.filterMap_replicate_of_none rfl, List.length_nil]

/-- What the slots hold, in their order. -/
def entries (p : Pool ρ) : List ρ := p.slots.filterMap id

/-- The first entry that satisfies `q`. -/
def find? (p : Pool ρ) (q : ρ → Bool) : Option ρ := p.entries.find? q

/-- Take `x` in: in the first null slot, else behind the taken ones of the
array of `newCap` slots the pool is moved to. -/
def add (p : Pool ρ) (x : ρ) (newCap : Option Nat) : Option (Pool ρ) :=
  match h : fill p.slots x with
  | some slots =>
      some ⟨slots, p.count + 1, by
        rw [(filterMap_fill h).length_eq, List.length_cons, p.count_eq]⟩
  | none =>
      match newCap with
      | none => none
      | some n =>
          if hn : p.slots.length < n then
            some ⟨(p.slots ++ List.replicate (n - p.slots.length) none).set p.count (some x),
              p.count + 1, by
                rw [p.count_eq, filterMap_grow h hn, List.length_append, List.length_singleton]⟩
          else none

/-- Null the slot of the first entry that satisfies `q`. -/
def remove (p : Pool ρ) (q : ρ → Bool) : Pool ρ := ofSlots (null q p.slots)

/-- Change the first entry that satisfies `q` in place. -/
def modify (p : Pool ρ) (q : ρ → Bool) (f : ρ → ρ) : Pool ρ := ofSlots (change q f p.slots)

/-- Change every entry in place. -/
def map (p : Pool ρ) (f : ρ → ρ) : Pool ρ := ofSlots (p.slots.map (Option.map f))

/-- Visit every entry, in slot order, and null the slots of the dropped ones. -/
def sweep (p : Pool ρ) (visit : σ → ρ → Bool × σ) (s : σ) : σ × Pool ρ :=
  let (t, slots) := sweepSlots visit s p.slots
  (t, ofSlots slots)

/-- Whether an entry can be taken in. -/
def hasRoom (p : Pool ρ) (newCap : Option Nat) : Bool :=
  p.slots.any Option.isNone || newCap.any fun n => decide (p.slots.length < n)

/-- The same once one more entry is in, where the array may be moved twice. -/
def hasRoomBehind (p : Pool ρ) (newCap : Option Nat) (newCap' : Nat → Option Nat) : Bool :=
  let n := if p.count < p.slots.length then p.slots.length else newCap.getD 0
  decide (p.count + 1 < n) || (newCap' n).any fun m => decide (n < m)

/-! ## Entries -/

/-- A new entry is in the first null slot, or behind the old ones in a longer array. -/
theorem slots_of_add {p q : Pool ρ} {x : ρ} {newCap : Option Nat} (h : p.add x newCap = some q) :
    fill p.slots x = some q.slots ∨ fill p.slots x = none ∧ ∃ n, p.slots.length < n ∧
      q.slots = (p.slots ++ List.replicate (n - p.slots.length) none).set p.count (some x) := by
  unfold add at h
  split at h
  · next slots hfill =>
    cases h
    exact Or.inl hfill
  · next hfill =>
    cases newCap with
    | none => cases h
    | some n =>
        dsimp only at h
        split at h
        · next hn =>
          cases h
          exact Or.inr ⟨hfill, n, hn, rfl⟩
        · cases h

/-- A new entry comes somewhere between the old ones. -/
theorem entries_add_eq {p q : Pool ρ} {x : ρ} {newCap : Option Nat} (h : p.add x newCap = some q) :
    ∃ l₁ l₂, p.entries = l₁ ++ l₂ ∧ q.entries = l₁ ++ x :: l₂ := by
  rcases slots_of_add h with hfill | ⟨hfill, n, hn, hslots⟩
  · exact filterMap_fill_eq hfill
  · refine ⟨p.entries, [], (List.append_nil _).symm, ?_⟩
    unfold entries
    rw [hslots, p.count_eq, filterMap_grow hfill hn]

/-- A new entry comes beside the old ones. -/
theorem entries_add {p q : Pool ρ} {x : ρ} {newCap : Option Nat} (h : p.add x newCap = some q) :
    q.entries.Perm (x :: p.entries) := by
  obtain ⟨l₁, l₂, hp, hq⟩ := entries_add_eq h
  rw [hp, hq]
  exact List.perm_middle

theorem isSome_add (p : Pool ρ) (x : ρ) (newCap : Option Nat) :
    (p.add x newCap).isSome = p.hasRoom newCap := by
  unfold add hasRoom
  split
  · next slots hfill =>
    have hany : p.slots.any Option.isNone = true := by
      rw [← Bool.not_eq_false]
      intro hfull
      rw [fill_eq_none_iff.mpr hfull] at hfill
      cases hfill
    rw [hany]
    rfl
  · next hfill =>
    rw [fill_eq_none_iff.mp hfill, Bool.false_or]
    cases newCap with
    | none => rfl
    | some n =>
        dsimp only [Option.any]
        split
        · next hn => exact (decide_eq_true hn).symm
        · next hn => exact (decide_eq_false hn).symm

theorem add_eq_none {p : Pool ρ} {x : ρ} {newCap : Option Nat} :
    p.add x newCap = none ↔ p.hasRoom newCap = false := by
  rw [← isSome_add p x newCap, Option.isSome_eq_false_iff, Option.isNone_iff_eq_none]

theorem length_fill {slots slots' : List (Option ρ)} {x : ρ} (h : fill slots x = some slots') :
    slots'.length = slots.length := by
  induction slots generalizing slots' with
  | nil => cases h
  | cons o slots ih =>
      cases o with
      | none =>
          cases h
          rfl
      | some y =>
          rw [fill, Option.map_eq_some_iff] at h
          obtain ⟨rest, hrest, rfl⟩ := h
          rw [List.length_cons, List.length_cons, ih hrest]

theorem any_isNone_eq (p : Pool ρ) :
    p.slots.any Option.isNone = decide (p.count < p.slots.length) := by
  rw [p.count_eq, Bool.eq_iff_iff, List.any_eq_true, decide_eq_true_eq,
    List.length_filterMap_lt_length_iff_exists]
  simp only [Option.isNone_iff_eq_none, id_eq, exists_prop]

/-- Room behind a new entry is told from the pool before. -/
theorem hasRoom_add {p q : Pool ρ} {x : ρ} {newCap : Option Nat} (h : p.add x newCap = some q)
    (newCap' : Nat → Option Nat) :
    q.hasRoom (newCap' q.slots.length) = p.hasRoomBehind newCap newCap' := by
  have hcount : q.count = p.count + 1 := by
    rw [q.count_eq, p.count_eq]
    exact (entries_add h).length_eq
  have hlength : q.slots.length =
      if p.count < p.slots.length then p.slots.length else newCap.getD 0 := by
    have hnone := any_isNone_eq p
    unfold add at h
    split at h
    next slots hfill =>
      cases h
      rw [if_pos, length_fill hfill]
      refine of_decide_eq_true (hnone.symm.trans ((Bool.not_eq_false _).mp fun hfull => ?_))
      cases (fill_eq_none_iff.mpr hfull).symm.trans hfill
    next hfill =>
      rw [if_neg (of_decide_eq_false (hnone.symm.trans (fill_eq_none_iff.mp hfill)))]
      cases newCap with
      | none => cases h
      | some n =>
          dsimp only at h
          split at h
          next hn =>
            cases h
            rw [List.length_set, List.length_append, List.length_replicate, Option.getD_some]
            omega
          next => cases h
  unfold hasRoom hasRoomBehind
  rw [any_isNone_eq, hcount, hlength]

@[simp] theorem entries_remove (p : Pool ρ) (q : ρ → Bool) :
    (p.remove q).entries = p.entries.eraseP q := filterMap_null q p.slots

/-- What is removed is what is found. -/
theorem perm_remove {p : Pool ρ} {q : ρ → Bool} {x : ρ} (h : p.find? q = some x) :
    p.entries.Perm (x :: (p.remove q).entries) := by
  obtain ⟨hq, l₁, l₂, hl, hnot⟩ := List.find?_eq_some_iff_append.mp h
  rw [entries_remove, hl, List.eraseP_append_right _ (fun y hy => by simpa using hnot y hy),
    List.eraseP_cons_of_pos hq]
  exact List.perm_middle

/-- Removing what was added. -/
theorem entries_remove_add {p r : Pool ρ} {q : ρ → Bool} {x : ρ} {newCap : Option Nat}
    (h : p.add x newCap = some r) (hx : q x = true) (hnew : ∀ y ∈ p.entries, q y = false) :
    (r.remove q).entries = p.entries := by
  obtain ⟨l₁, l₂, hp, hr⟩ := entries_add_eq h
  have hnot : ∀ y ∈ l₁, ¬ q y = true := fun y hy => by
    rw [hnew y (hp ▸ List.mem_append_left l₂ hy)]
    exact Bool.false_ne_true
  rw [entries_remove, hr, List.eraseP_append_right _ hnot, List.eraseP_cons_of_pos hx, hp]

theorem mem_of_find? {p : Pool ρ} {q : ρ → Bool} {x : ρ} (h : p.find? q = some x) :
    x ∈ p.entries := List.mem_of_find?_eq_some h

/-- Changing the same entry twice. -/
theorem modify_modify {q : ρ → Bool} {f g : ρ → ρ} (p : Pool ρ)
    (h : ∀ x, q (f x) = q x) : (p.modify q f).modify q g = p.modify q (g ∘ f) := by
  unfold modify
  refine congrArg ofSlots ?_
  unfold ofSlots
  dsimp only
  generalize p.slots = slots
  induction slots with
  | nil => rfl
  | cons o slots ih =>
      cases o with
      | none => exact congrArg (none :: ·) ih
      | some y =>
          rw [change, change]
          split
          · next hy => rw [change, if_pos ((h y).trans hy)]; rfl
          · next hy =>
            rw [change, if_neg hy]
            exact congrArg (some y :: ·) ih

theorem map_modify {q : ρ → Bool} {f : ρ → ρ} {g : ρ → β} (p : Pool ρ)
    (h : ∀ x, g (f x) = g x) : (p.modify q f).entries.map g = p.entries.map g :=
  map_filterMap_change h p.slots

theorem mem_modify_of_find? {p : Pool ρ} {q : ρ → Bool} {f : ρ → ρ} {x : ρ}
    (h : p.find? q = some x) : f x ∈ (p.modify q f).entries :=
  mem_filterMap_change_of_find? h

@[simp] theorem entries_map (p : Pool ρ) (f : ρ → ρ) :
    (p.map f).entries = p.entries.map f := by
  show (p.slots.map (Option.map f)).filterMap id = (p.slots.filterMap id).map f
  rw [List.filterMap_map, List.map_filterMap]
  rfl

/-- The state a sweep ends in is that of visiting the entries in order. -/
theorem sweep_fst (p : Pool ρ) (visit : σ → ρ → Bool × σ) (s : σ) :
    (p.sweep visit s).1 = p.entries.foldl (fun s x => (visit s x).2) s :=
  sweepSlots_fst visit s p.slots

/-- Where the state has no say in what is dropped, sweeping is filtering. -/
theorem entries_sweep {visit : σ → ρ → Bool × σ} {d : ρ → Bool}
    (h : ∀ s x, (visit s x).1 = d x) (p : Pool ρ) (s : σ) :
    (p.sweep visit s).2.entries = p.entries.filter fun x => !d x :=
  filterMap_sweepSlots h s p.slots

theorem sweep_proj {π : τ → σ} {visit' : τ → ρ → Bool × τ} {visit : σ → ρ → Bool × σ}
    (h : ∀ s x, ((visit' s x).1, π (visit' s x).2) = visit (π s) x) (p : Pool ρ) (s : τ) :
    (π (p.sweep visit' s).1, (p.sweep visit' s).2) = p.sweep visit (π s) := by
  have hslots := sweepSlots_proj h s p.slots
  unfold sweep
  dsimp only
  rw [← hslots]

theorem sublist_sweep (p : Pool ρ) (visit : σ → ρ → Bool × σ) (s : σ) :
    (p.sweep visit s).2.entries.Sublist p.entries := sublist_sweepSlots visit s p.slots

/-- **Sweep rule.** A preorder that every visit respects, the sweep respects. -/
theorem sweep_rel {R : σ → σ → Prop} (hrefl : ∀ s, R s s)
    (htrans : ∀ s t u, R s t → R t u → R s u) {visit : σ → ρ → Bool × σ}
    (hvisit : ∀ s x, R s (visit s x).2) (p : Pool ρ) (s : σ) : R s (p.sweep visit s).1 := by
  rw [sweep_fst]
  generalize p.entries = l
  induction l generalizing s with
  | nil => exact hrefl s
  | cons x l ih => exact htrans _ _ _ (hvisit s x) (ih _)

/-! ## The slot an entry is in -/

section Slot
variable {p r : Pool ρ} {q : ρ → Bool} {x : ρ} {newCap : Option Nat}

/-- The slot of the first entry that satisfies `q`. -/
def slot? (p : Pool ρ) (q : ρ → Bool) : Option Nat := p.slots.findIdx? fun o => o.any q

/-- The first null slot, or the one a larger array would have first. -/
def room (p : Pool ρ) : Nat := p.slots.findIdx Option.isNone

theorem fill_eq {slots slots' : List (Option ρ)} (h : fill slots x = some slots') :
    ∃ rest, slots' = slots.take (slots.findIdx Option.isNone) ++ some x :: rest := by
  induction slots generalizing slots' with
  | nil => cases h
  | cons o slots ih =>
      cases o with
      | none =>
          cases h
          exact ⟨slots, rfl⟩
      | some y =>
          rw [fill, Option.map_eq_some_iff] at h
          obtain ⟨rest, hrest, rfl⟩ := h
          obtain ⟨tail, rfl⟩ := ih hrest
          exact ⟨tail, by rw [List.findIdx_cons, Option.isNone_some, cond_false]; rfl⟩

/-- A new entry comes behind the taken slots the array begins with. -/
theorem slots_add (h : p.add x newCap = some r) :
    ∃ rest, r.slots = p.slots.take p.room ++ some x :: rest := by
  rcases slots_of_add h with hfill | ⟨hfill, n, hn, hslots⟩
  · exact fill_eq hfill
  · have hroom : p.room = p.slots.length := by
      refine List.findIdx_eq_length.mpr fun o ho => ?_
      exact Bool.eq_false_iff.mpr fun hnone => List.any_eq_false.mp
        (fill_eq_none_iff.mp hfill) o ho hnone
    have hcount : p.count = p.slots.length := by
      rw [p.count_eq]
      conv_rhs => rw [filterMap_of_fill_eq_none hfill, List.length_map]
    obtain ⟨k, hk⟩ : ∃ k, n - p.slots.length = k + 1 := ⟨n - p.slots.length - 1, by omega⟩
    refine ⟨List.replicate k none, ?_⟩
    rw [hslots, hroom, hcount, List.take_length, List.set_append_right _ _ (Nat.le_refl _),
      Nat.sub_self, hk, List.replicate_succ, List.set_cons_zero]

theorem length_take_room (p : Pool ρ) : (p.slots.take p.room).length = p.room :=
  List.length_take_of_le List.findIdx_le_length

theorem getElem?_add_room (h : p.add x newCap = some r) : r.slots[p.room]? = some (some x) := by
  obtain ⟨rest, hr⟩ := slots_add h
  have hlen := length_take_room p
  rw [hr, List.getElem?_append_right (Nat.le_of_eq hlen), hlen, Nat.sub_self]
  rfl

/-- A new entry is the first to satisfy `q` unless one of the slots before does. -/
theorem slot?_add_eq_iff (h : p.add x newCap = some r) (hx : q x = true) :
    r.slot? q = some p.room ↔ ∀ i ∈ p.slot? q, p.room ≤ i := by
  obtain ⟨rest, hr⟩ := slots_add h
  have hp : p.slot? q = (p.slots.take p.room ++ p.slots.drop p.room).findIdx? fun o => o.any q := by
    rw [List.take_append_drop]
    rfl
  rw [hp, slot?, hr, List.findIdx?_append, List.findIdx?_append, length_take_room,
    List.findIdx?_cons]
  simp only [Option.any_some, hx, if_true]
  cases hpre : (p.slots.take p.room).findIdx? fun o => o.any q with
  | none =>
      refine iff_of_true (by simp) fun i hi => ?_
      simp only [Option.none_or, Option.mem_def, Option.map_eq_some_iff] at hi
      obtain ⟨j, -, rfl⟩ := hi
      exact Nat.le_add_left _ _
  | some i =>
      have hlt : i < p.room := by
        rw [← length_take_room p]
        exact (List.findIdx?_eq_some_iff_getElem.mp hpre).1
      simp only [Option.some_or, Option.some.injEq, Option.mem_def, forall_eq']
      omega

/-- What a search finds before it comes to the first null slot. -/
def findAhead? (p : Pool ρ) (q : ρ → Bool) : Option ρ :=
  ((p.slots.take p.room).filterMap id).find? q

theorem find?_add (h : p.add x newCap = some r) (hx : q x = true) :
    r.find? q = some ((p.findAhead? q).getD x) := by
  obtain ⟨rest, hr⟩ := slots_add h
  unfold find? entries findAhead?
  rw [hr, List.filterMap_append, List.find?_append, List.filterMap_cons]
  cases ((p.slots.take p.room).filterMap id).find? q with
  | none => exact List.find?_cons_of_pos hx
  | some y => rfl

/-- What `find?` finds is in the slot `slot?` finds. -/
theorem find?_of_slot? {i : Nat} (hi : p.slot? q = some i) (hx : p.slots[i]? = some (some x)) :
    p.find? q = some x := by
  unfold slot? at hi
  unfold find? entries
  generalize p.slots = slots at hi hx
  induction slots generalizing i with
  | nil => cases hi
  | cons o slots ih =>
      rw [List.findIdx?_cons] at hi
      cases o with
      | none =>
          simp only [Option.any_none, Bool.false_eq_true, if_false, Option.map_eq_some_iff] at hi
          obtain ⟨j, hj, rfl⟩ := hi
          exact ih hj hx
      | some y =>
          have hcons : ((some y :: slots).filterMap id) = y :: slots.filterMap id := rfl
          rw [hcons, List.find?_cons]
          cases hy : q y with
          | true =>
              simp only [Option.any_some, hy, if_true, Option.some.injEq] at hi
              subst hi
              exact Option.some.inj hx
          | false =>
              simp only [Option.any_some, hy, Bool.false_eq_true, if_false,
                Option.map_eq_some_iff] at hi
              obtain ⟨j, hj, rfl⟩ := hi
              exact ih hj hx

end Slot

/-! ## Keys

Where no two entries have the same key, what a key finds, changes or removes is
one entry. -/

section Keys
variable {key : ρ → Nat} {p : Pool ρ} {k : Nat} {x y : ρ}

theorem find?_key_eq_some_iff (h : (p.entries.map key).Nodup) :
    p.find? (fun x => key x == k) = some x ↔ x ∈ p.entries ∧ key x = k := by
  constructor
  · intro hx
    exact ⟨mem_of_find? hx, by simpa using List.find?_some hx⟩
  · rintro ⟨hx, rfl⟩
    cases hy : p.find? fun y => key y == key x with
    | none => exact absurd (List.find?_eq_none.mp hy x hx) (by simp)
    | some y =>
        have hkey : key y = key x := by simpa using List.find?_some hy
        exact congrArg some (List.inj_on_of_nodup_map h (mem_of_find? hy) hx hkey)

theorem isSome_find?_key_iff :
    (p.find? fun x => key x == k).isSome = true ↔ ∃ x ∈ p.entries, key x = k := by
  unfold find?
  simp only [List.find?_isSome, beq_iff_eq]

theorem mem_remove_key_iff (h : (p.entries.map key).Nodup) :
    y ∈ (p.remove fun x => key x == k).entries ↔ y ∈ p.entries ∧ key y ≠ k := by
  cases hx : p.find? fun x => key x == k with
  | none =>
      have hnot : ∀ y ∈ p.entries, key y ≠ k := by
        intro y hy hk
        exact List.find?_eq_none.mp hx y hy (by simpa using hk)
      rw [entries_remove, List.eraseP_of_forall_not fun y hy => by simpa using hnot y hy]
      exact ⟨fun hy => ⟨hy, hnot y hy⟩, And.left⟩
  | some x =>
      obtain ⟨-, hkx⟩ := (find?_key_eq_some_iff h).mp hx
      have hperm := perm_remove hx
      have hnodup := (hperm.map key).nodup_iff.mp h
      obtain ⟨hnot, -⟩ := List.nodup_cons.mp hnodup
      rw [hperm.mem_iff, List.mem_cons]
      constructor
      · intro hy
        refine ⟨Or.inr hy, fun hk => hnot ?_⟩
        exact List.mem_map.mpr ⟨y, hy, hk.trans hkx.symm⟩
      · rintro ⟨rfl | hy, hne⟩
        · exact absurd hkx hne
        · exact hy

theorem entries_modify_of_find? {q : ρ → Bool} {f : ρ → ρ} {p : Pool ρ} {x : ρ}
    (h : p.find? q = some x) :
    ∃ l₁ l₂, p.entries = l₁ ++ x :: l₂ ∧ (p.modify q f).entries = l₁ ++ f x :: l₂ :=
  filterMap_change_of_find? h

theorem modify_of_find?_eq_none {q : ρ → Bool} {f : ρ → ρ} {p : Pool ρ}
    (h : p.find? q = none) : (p.modify q f).entries = p.entries := by
  unfold modify ofSlots entries
  unfold find? entries at h
  dsimp only
  generalize p.slots = slots at h ⊢
  induction slots with
  | nil => rfl
  | cons o slots ih =>
      cases o with
      | none => exact ih h
      | some y =>
          have hcons : ((some y :: slots).filterMap id) = y :: slots.filterMap id := rfl
          rw [hcons, List.find?_eq_none] at h
          obtain ⟨hy, hslots⟩ := List.forall_mem_cons.mp h
          rw [change, if_neg hy]
          exact congrArg (y :: ·) (ih (List.find?_eq_none.mpr hslots))

theorem of_mem_modify {q : ρ → Bool} {f : ρ → ρ} {p : Pool ρ}
    (hy : y ∈ (p.modify q f).entries) :
    y ∈ p.entries ∨ ∃ x, p.find? q = some x ∧ y = f x := by
  cases hx : p.find? q with
  | none =>
      rw [modify_of_find?_eq_none hx] at hy
      exact Or.inl hy
  | some x =>
      obtain ⟨l₁, l₂, h₁, h₂⟩ := entries_modify_of_find? (f := f) hx
      rw [h₂, List.perm_middle.mem_iff, List.mem_cons] at hy
      rcases hy with rfl | hy
      · exact Or.inr ⟨x, rfl, rfl⟩
      · rw [h₁, List.perm_middle.mem_iff]
        exact Or.inl (List.mem_cons_of_mem x hy)

/-- What `f` does not touch of the entry that is found stays. -/
theorem map_modify_of_find? {q : ρ → Bool} {f : ρ → ρ} {g : ρ → β} {p : Pool ρ}
    (h : ∀ x, p.find? q = some x → g (f x) = g x) :
    (p.modify q f).entries.map g = p.entries.map g := by
  cases hx : p.find? q with
  | none => rw [modify_of_find?_eq_none hx]
  | some x =>
      obtain ⟨l₁, l₂, h₁, h₂⟩ := entries_modify_of_find? (f := f) hx
      rw [h₁, h₂, List.map_append, List.map_append, List.map_cons, List.map_cons, h x hx]

/-- Changing what a key finds leaves the other entries. -/
theorem mem_modify_key_iff {f : ρ → ρ} (h : (p.entries.map key).Nodup) (hy : key y ≠ k)
    (hf : ∀ x, key (f x) = key x) :
    y ∈ (p.modify (fun x => key x == k) f).entries ↔ y ∈ p.entries := by
  cases hx : p.find? fun x => key x == k with
  | none => rw [modify_of_find?_eq_none hx]
  | some x =>
      obtain ⟨-, hkx⟩ := (find?_key_eq_some_iff h).mp hx
      obtain ⟨l₁, l₂, h₁, h₂⟩ := entries_modify_of_find? (f := f) hx
      have hne : y ≠ x := fun he => hy (he ▸ hkx)
      have hne' : y ≠ f x := fun he => hy (by rw [he, hf, hkx])
      simp only [h₁, h₂, List.mem_append, List.mem_cons, hne, hne', false_or]

/-- Every entry after a change is an old one of another key, or comes from the
one changed. -/
theorem of_mem_modify_key {f : ρ → ρ} (h : (p.entries.map key).Nodup)
    (hy : y ∈ (p.modify (fun x => key x == k) f).entries) :
    (y ∈ p.entries ∧ key y ≠ k) ∨ ∃ x ∈ p.entries, key x = k ∧ y = f x := by
  cases hx : p.find? fun x => key x == k with
  | none =>
      rw [modify_of_find?_eq_none hx] at hy
      exact Or.inl ⟨hy, by simpa using List.find?_eq_none.mp hx y hy⟩
  | some x =>
      have hkx : key x = k := by simpa using List.find?_some hx
      obtain ⟨l₁, l₂, h₁, h₂⟩ := entries_modify_of_find? (f := f) hx
      have hnodup : (x :: (l₁ ++ l₂)).map key |>.Nodup := by
        rw [h₁] at h
        exact (List.perm_middle.map key).nodup_iff.mp h
      have hold : y ∈ l₁ ++ l₂ → y ∈ p.entries ∧ key y ≠ k := by
        intro hmem
        refine ⟨?_, fun hk => (List.nodup_cons.mp hnodup).1 ?_⟩
        · rw [h₁]
          exact List.perm_middle.mem_iff.mpr (List.mem_cons_of_mem _ hmem)
        · exact List.mem_map.mpr ⟨y, hmem, hk.trans hkx.symm⟩
      rw [h₂, List.perm_middle.mem_iff, List.mem_cons] at hy
      rcases hy with rfl | hy
      · refine Or.inr ⟨x, ?_, hkx, rfl⟩
        rw [h₁]
        exact List.mem_append_right _ List.mem_cons_self
      · exact Or.inl (hold hy)

end Keys

end Pool
