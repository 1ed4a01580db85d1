import Mathlib.Data.List.Nodup
import Mathlib.Logic.Function.Basic
import Mathlib.Tactic.Common

/-! # Numbered objects

Objects are told apart by the numbers they were made under, and `n` is the next
one. `Objects n l` is a collection that holds no object twice, `Dictionary n f`
a dictionary that has no object under two keys. `Matches` says that one holds
what the other maps, `Within` that a collection holds nothing else. -/

universe u

namespace Numbering

structure Objects (n : Nat) (l : List Nat) : Prop where
  once : l.Nodup
  old : ∀ o ∈ l, o < n

structure Dictionary {κ : Type u} (n : Nat) (f : κ → Option Nat) : Prop where
  old : ∀ k o, f k = some o → o < n
  own : ∀ k k' o, f k = some o → f k' = some o → k = k'

/-- The collection holds exactly what the dictionary maps. -/
def Matches {κ : Type u} (l : List Nat) (f : κ → Option Nat) : Prop :=
  ∀ o, o ∈ l ↔ ∃ k, f k = some o

/-- The collection holds nothing but what the dictionary maps. -/
def Within {κ : Type u} (l : List Nat) (f : κ → Option Nat) : Prop :=
  ∀ o ∈ l, ∃ k, f k = some o

/-! ## Collections -/

namespace Objects
variable {n m o : Nat} {l : List Nat}

theorem nil (n : Nat) : Objects n [] := ⟨List.nodup_nil, fun _ h => absurd h List.not_mem_nil⟩

theorem mono (h : Objects n l) (hnm : n ≤ m) : Objects m l :=
  ⟨h.once, fun o ho => Nat.lt_of_lt_of_le (h.old o ho) hnm⟩

/-- The next object is not there yet. -/
theorem next_not_mem (h : Objects n l) : n ∉ l := fun hn => Nat.lt_irrefl n (h.old n hn)

theorem erase (h : Objects n l) (o : Nat) : Objects n (l.erase o) :=
  ⟨h.once.erase o, fun a ha => h.old a (List.mem_of_mem_erase ha)⟩

theorem append (h : Objects n l) (ho : o < n) (hnew : o ∉ l) : Objects n (l ++ [o]) := by
  refine ⟨?_, fun a ha => ?_⟩
  · rw [List.nodup_append]
    refine ⟨h.once, List.nodup_singleton o, fun a ha b hb hab => hnew ?_⟩
    rw [← List.mem_singleton.mp hb, ← hab]
    exact ha
  · rcases List.mem_append.mp ha with ha | ha
    · exact h.old a ha
    · rw [List.mem_singleton.mp ha]
      exact ho

theorem append_next (h : Objects n l) : Objects (n + 1) (l ++ [n]) :=
  (h.mono (Nat.le_succ n)).append (Nat.lt_succ_self n) h.next_not_mem

theorem mem_replace_iff {a : Nat} (hl : l.Nodup) (ho : o ∈ l) (b : Nat) :
    a ∈ l.replace o b ↔ a = b ∨ (a ∈ l ∧ a ≠ o) := by
  induction l with
  | nil => cases ho
  | cons c l ih =>
      obtain ⟨hc, hl'⟩ := List.nodup_cons.mp hl
      by_cases hco : c = o
      · subst hco
        rw [List.replace_cons_self, List.mem_cons, List.mem_cons]
        constructor
        · rintro (rfl | ha)
          · exact Or.inl rfl
          · exact Or.inr ⟨Or.inr ha, fun heq => hc (heq ▸ ha)⟩
        · rintro (rfl | ⟨rfl | ha, hne⟩)
          · exact Or.inl rfl
          · exact absurd rfl hne
          · exact Or.inr ha
      · have hol : o ∈ l := (List.mem_cons.mp ho).resolve_left fun h => hco h.symm
        rw [List.replace_cons, beq_eq_false_iff_ne.mpr (Ne.symm hco), List.mem_cons, List.mem_cons,
          ih hl' hol]
        constructor
        · rintro (rfl | rfl | ⟨ha, hne⟩)
          · exact Or.inr ⟨Or.inl rfl, hco⟩
          · exact Or.inl rfl
          · exact Or.inr ⟨Or.inr ha, hne⟩
        · rintro (rfl | ⟨rfl | ha, hne⟩)
          · exact Or.inr (Or.inl rfl)
          · exact Or.inl rfl
          · exact Or.inr (Or.inr ⟨ha, hne⟩)

theorem nodup_replace (hl : l.Nodup) (hn : n ∉ l) (o : Nat) : (l.replace o n).Nodup := by
  induction l with
  | nil => exact List.nodup_nil
  | cons c l ih =>
      obtain ⟨hc, hl'⟩ := List.nodup_cons.mp hl
      obtain ⟨hnc, hnl⟩ := not_or.mp (List.mem_cons.not.mp hn)
      rw [List.replace_cons]
      split
      · exact List.nodup_cons.mpr ⟨hnl, hl'⟩
      · refine List.nodup_cons.mpr ⟨fun hmem => ?_, ih hl' hnl⟩
        by_cases hol : o ∈ l
        · rcases (mem_replace_iff hl' hol n).mp hmem with rfl | ⟨hcl, -⟩
          · exact hnc rfl
          · exact hc hcl
        · rw [List.replace_of_not_mem hol] at hmem
          exact hc hmem

/-- The next object takes the place of another one. -/
theorem replace (h : Objects n l) (o : Nat) : Objects (n + 1) (l.replace o n) := by
  refine ⟨nodup_replace h.once h.next_not_mem o, fun a ha => ?_⟩
  by_cases hol : o ∈ l
  · rcases (mem_replace_iff h.once hol n).mp ha with rfl | ⟨hal, -⟩
    · exact Nat.lt_succ_self a
    · exact Nat.lt_succ_of_lt (h.old a hal)
  · rw [List.replace_of_not_mem hol] at ha
    exact Nat.lt_succ_of_lt (h.old a ha)

end Objects

/-! ## Dictionaries -/

section Maps
variable {κ : Type u} [DecidableEq κ] {n m o : Nat} {l : List Nat} {f : κ → Option Nat} {k : κ}

namespace Dictionary

omit [DecidableEq κ] in
theorem empty (n : Nat) : Dictionary n (fun _ : κ => none) :=
  ⟨fun _ _ h => (by cases h), fun _ _ _ h => (by cases h)⟩

omit [DecidableEq κ] in
theorem mono (h : Dictionary n f) (hnm : n ≤ m) : Dictionary m f :=
  ⟨fun k o ho => Nat.lt_of_lt_of_le (h.old k o ho) hnm, h.own⟩

omit [DecidableEq κ] in
theorem next_ne (h : Dictionary n f) (k : κ) : f k ≠ some n := fun hk =>
  Nat.lt_irrefl n (h.old k n hk)

/-- The next object is entered, in place of another one or not. -/
theorem enter (h : Dictionary n f) (k : κ) :
    Dictionary (n + 1) (Function.update f k (some n)) := by
  constructor
  · intro k₁ o ho
    by_cases hk : k₁ = k
    · rw [hk, Function.update_self] at ho
      exact Option.some.inj ho ▸ Nat.lt_succ_self n
    · rw [Function.update_of_ne hk] at ho
      exact Nat.lt_succ_of_lt (h.old k₁ o ho)
  · intro k₁ k₂ o h₁ h₂
    by_cases hk₁ : k₁ = k
    · by_cases hk₂ : k₂ = k
      · rw [hk₁, hk₂]
      · rw [hk₁, Function.update_self] at h₁
        rw [Function.update_of_ne hk₂, ← h₁] at h₂
        exact absurd h₂ (h.next_ne k₂)
    · by_cases hk₂ : k₂ = k
      · rw [hk₂, Function.update_self] at h₂
        rw [Function.update_of_ne hk₁, ← h₂] at h₁
        exact absurd h₁ (h.next_ne k₁)
      · rw [Function.update_of_ne hk₁] at h₁
        rw [Function.update_of_ne hk₂] at h₂
        exact h.own k₁ k₂ o h₁ h₂

theorem remove (h : Dictionary n f) (k : κ) : Dictionary n (Function.update f k none) := by
  have hold : ∀ k₁ o, Function.update f k none k₁ = some o → f k₁ = some o := by
    intro k₁ o ho
    by_cases hk : k₁ = k
    · rw [hk, Function.update_self] at ho
      cases ho
    · rwa [Function.update_of_ne hk] at ho
  exact ⟨fun k₁ o ho => h.old k₁ o (hold k₁ o ho),
    fun k₁ k₂ o h₁ h₂ => h.own k₁ k₂ o (hold k₁ o h₁) (hold k₂ o h₂)⟩

end Dictionary

/-- What is mapped after an object was entered. -/
theorem mapped_update_some (f : κ → Option Nat) (k : κ) (n a : Nat) :
    (∃ k', Function.update f k (some n) k' = some a) ↔ a = n ∨ ∃ k', k' ≠ k ∧ f k' = some a := by
  constructor
  · rintro ⟨k', hk'⟩
    by_cases hk : k' = k
    · rw [hk, Function.update_self] at hk'
      exact Or.inl (Option.some.inj hk').symm
    · rw [Function.update_of_ne hk] at hk'
      exact Or.inr ⟨k', hk, hk'⟩
  · rintro (rfl | ⟨k', hk, hk'⟩)
    · exact ⟨k, Function.update_self ..⟩
    · exact ⟨k', by rw [Function.update_of_ne hk, hk']⟩

theorem mapped_update_none (f : κ → Option Nat) (k : κ) (a : Nat) :
    (∃ k', Function.update f k none k' = some a) ↔ ∃ k', k' ≠ k ∧ f k' = some a := by
  constructor
  · rintro ⟨k', hk'⟩
    by_cases hk : k' = k
    · rw [hk, Function.update_self] at hk'
      cases hk'
    · rw [Function.update_of_ne hk] at hk'
      exact ⟨k', hk, hk'⟩
  · rintro ⟨k', hk, hk'⟩
    exact ⟨k', by rw [Function.update_of_ne hk, hk']⟩

omit [DecidableEq κ] in
/-- What is mapped under other keys than `k`, where `k` maps `o`. -/
theorem Dictionary.mapped_other (h : Dictionary n f) (hk : f k = some o) (a : Nat) :
    (∃ k', k' ≠ k ∧ f k' = some a) ↔ a ≠ o ∧ ∃ k', f k' = some a := by
  constructor
  · rintro ⟨k', hne, hk'⟩
    exact ⟨fun heq => hne (h.own k' k o (heq ▸ hk') hk), k', hk'⟩
  · rintro ⟨hne, k', hk'⟩
    refine ⟨k', fun heq => hne ?_, hk'⟩
    rw [heq, hk] at hk'
    exact (Option.some.inj hk').symm

omit [DecidableEq κ] in
/-- What is mapped under other keys than one that maps nothing. -/
theorem mapped_other_of_none (hk : f k = none) (a : Nat) :
    (∃ k', k' ≠ k ∧ f k' = some a) ↔ ∃ k', f k' = some a := by
  constructor
  · rintro ⟨k', -, hk'⟩
    exact ⟨k', hk'⟩
  · rintro ⟨k', hk'⟩
    refine ⟨k', fun heq => ?_, hk'⟩
    rw [heq, hk] at hk'
    cases hk'

/-! ## The two together -/

/-- The next object is entered on both sides. -/
theorem Matches.enter (h : Matches l f) (hk : f k = none) :
    Matches (l ++ [n]) (Function.update f k (some n)) := by
  intro a
  rw [mapped_update_some, mapped_other_of_none hk, List.mem_append, List.mem_singleton, h a,
    or_comm]

theorem Matches.remove (h : Matches l f) (hl : Objects n l) (hf : Dictionary n f)
    (hk : f k = some o) : Matches (l.erase o) (Function.update f k none) := by
  intro a
  rw [mapped_update_none, hf.mapped_other hk, hl.once.mem_erase_iff, h a]

/-- The next object takes the place of another one on both sides. -/
theorem Matches.replace (h : Matches l f) (hl : Objects n l) (hf : Dictionary n f)
    (hk : f k = some o) : Matches (l.replace o n) (Function.update f k (some n)) := by
  intro a
  rw [mapped_update_some, hf.mapped_other hk, Objects.mem_replace_iff hl.once ((h o).mpr ⟨k, hk⟩),
    h a, and_comm]

omit [DecidableEq κ] in
/-- One side alone does not get a new object. -/
theorem not_matches_append (hf : Dictionary n f) (l : List Nat) : ¬ Matches (l ++ [n]) f := by
  intro h
  obtain ⟨k, hk⟩ := (h n).mp (List.mem_append_right l (List.mem_singleton_self n))
  exact hf.next_ne k hk

theorem not_matches_update (hl : Objects n l) (f : κ → Option Nat) (k : κ) :
    ¬ Matches l (Function.update f k (some n)) := fun h =>
  hl.next_not_mem ((h n).mpr ⟨k, Function.update_self ..⟩)

theorem Within.enter (h : Within l f) (hk : f k = none) :
    Within l (Function.update f k (some n)) := by
  intro a ha
  rw [mapped_update_some, mapped_other_of_none hk]
  exact Or.inr (h a ha)

theorem Within.remove (h : Within l f) (hl : Objects n l) (hf : Dictionary n f)
    (hk : f k = some o) : Within (l.erase o) (Function.update f k none) := by
  intro a ha
  obtain ⟨hne, hal⟩ := hl.once.mem_erase_iff.mp ha
  rw [mapped_update_none, hf.mapped_other hk]
  exact ⟨hne, h a hal⟩

omit [DecidableEq κ] in
theorem Within.erase (h : Within l f) (o : Nat) : Within (l.erase o) f := fun a ha =>
  h a (List.mem_of_mem_erase ha)

omit [DecidableEq κ] in
theorem Within.append (h : Within l f) (hk : f k = some o) : Within (l ++ [o]) f := by
  intro a ha
  rcases List.mem_append.mp ha with ha | ha
  · exact h a ha
  · rw [List.mem_singleton.mp ha]
    exact ⟨k, hk⟩

/-- A collection that does not follow stays within the dictionary where it does
not hold what is replaced. -/
theorem within_replace_iff (hl : Objects n l) (hf : Dictionary n f) (hk : f k = some o) :
    Within l (Function.update f k (some n)) ↔ Within l f ∧ o ∉ l := by
  constructor
  · intro h
    have hother : ∀ a ∈ l, a ≠ o ∧ ∃ k', f k' = some a := by
      intro a ha
      have hmapped := h a ha
      rw [mapped_update_some, hf.mapped_other hk] at hmapped
      exact hmapped.resolve_left fun heq => hl.next_not_mem (heq ▸ ha)
    exact ⟨fun a ha => (hother a ha).2, fun ho => (hother o ho).1 rfl⟩
  · rintro ⟨h, ho⟩ a ha
    rw [mapped_update_some, hf.mapped_other hk]
    exact Or.inr ⟨fun heq => ho (heq ▸ ha), h a ha⟩

end Maps

end Numbering
