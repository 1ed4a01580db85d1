import Mathlib.Tactic.Common

/-! # A cache in front of a map

Entries are looked at in order, and the first one of a key answers in place of
the map. The cache cannot be told from the map as long as every entry repeats
what the map says; it can as soon as the map forgets a key it holds. -/

universe u v w

namespace Lookaside
variable {ι : Type u} {κ : Type v} {α : Type w} {key : ι → κ} {value : ι → α}
variable {map map' : κ → Option α} {cache cache' cache'' : List ι} {k : κ} {e : ι}

/-! ## Agreement -/

/-- Every entry repeats the map. -/
def Agrees (key : ι → κ) (value : ι → α) (cache : List ι) (map : κ → Option α) : Prop :=
  ∀ e ∈ cache, map (key e) = some (value e)

theorem agrees_nil : Agrees key value [] map := fun _ h => absurd h List.not_mem_nil

/-- The map may change where the cache holds nothing. -/
theorem Agrees.congr (h : Agrees key value cache map)
    (hmap : ∀ e ∈ cache, map' (key e) = map (key e)) : Agrees key value cache map' :=
  fun e he => (hmap e he).trans (h e he)

/-! ## What a lookup may leave behind -/

/-- `cache'` holds nothing that neither `cache` nor the map says. -/
def Sourced (key : ι → κ) (value : ι → α) (map : κ → Option α) (cache cache' : List ι) : Prop :=
  ∀ e ∈ cache', (∃ e' ∈ cache, key e' = key e ∧ value e' = value e) ∨ map (key e) = some (value e)

theorem Sourced.refl : Sourced key value map cache cache :=
  fun e he => Or.inl ⟨e, he, rfl, rfl⟩

theorem Sourced.trans (h : Sourced key value map cache cache')
    (h' : Sourced key value map cache' cache'') : Sourced key value map cache cache'' := by
  intro e he
  rcases h' e he with ⟨e', he', hk, hv⟩ | hm
  · rcases h e' he' with ⟨e'', he'', hk', hv'⟩ | hm
    · exact Or.inl ⟨e'', he'', hk'.trans hk, hv'.trans hv⟩
    · rw [hk, hv] at hm
      exact Or.inr hm
  · exact Or.inr hm

theorem Sourced.concat (he : map (key e) = some (value e)) :
    Sourced key value map cache (cache ++ [e]) := by
  intro x hx
  rcases List.mem_append.mp hx with hx | hx
  · exact Sourced.refl x hx
  · rw [List.mem_singleton.mp hx]
    exact Or.inr he

theorem Sourced.set (he : map (key e) = some (value e)) (i : Nat) :
    Sourced key value map cache (cache.set i e) := by
  intro x hx
  rcases List.mem_or_eq_of_mem_set hx with hx | rfl
  · exact Sourced.refl x hx
  · exact Or.inr he

/-- Entries may change in what is neither key nor value. -/
theorem Sourced.modify (i : Nat) {f : ι → ι} (hkey : ∀ e, key (f e) = key e)
    (hvalue : ∀ e, value (f e) = value e) : Sourced key value map cache (cache.modify i f) := by
  intro x hx
  obtain ⟨j, hj, rfl⟩ := List.mem_iff_getElem.mp hx
  rw [List.length_modify] at hj
  left
  refine ⟨cache[j], List.getElem_mem hj, ?_⟩
  rw [List.getElem_modify]
  split
  · exact ⟨(hkey _).symm, (hvalue _).symm⟩
  · exact ⟨rfl, rfl⟩

theorem Agrees.sourced (h : Agrees key value cache map)
    (hs : Sourced key value map cache cache') : Agrees key value cache' map := by
  intro e he
  rcases hs e he with ⟨e', he', hk, hv⟩ | hm
  · rw [← hk, ← hv]
    exact h e' he'
  · exact hm

/-! ## Lookups -/

variable [DecidableEq κ]

/-- What the cache holds for a key. -/
def held (key : ι → κ) (value : ι → α) (cache : List ι) (k : κ) : Option α :=
  (cache.find? fun e => key e = k).map value

/-- What a lookup through the cache answers. -/
def serve (key : ι → κ) (value : ι → α) (cache : List ι) (map : κ → Option α) (k : κ) : Option α :=
  (held key value cache k).or (map k)

theorem held_eq_some {a : α} (h : held key value cache k = some a) :
    ∃ e ∈ cache, key e = k ∧ value e = a := by
  obtain ⟨e, he, ha⟩ := Option.map_eq_some_iff.mp h
  exact ⟨e, List.mem_of_find?_eq_some he, by simpa using List.find?_some he, ha⟩

theorem held_eq_none_iff : held key value cache k = none ↔ ∀ e ∈ cache, key e ≠ k := by
  unfold held
  rw [Option.map_eq_none_iff, List.find?_eq_none]
  simp only [decide_eq_true_eq, ne_eq]

theorem serve_eq_none_iff :
    serve key value cache map k = none ↔ (∀ e ∈ cache, key e ≠ k) ∧ map k = none := by
  unfold serve
  rw [Option.or_eq_none_iff, held_eq_none_iff]

/-- What a lookup leaves behind answers no key that had no answer. -/
theorem Sourced.serve_eq_none (hs : Sourced key value map cache cache')
    (h : serve key value cache map k = none) : serve key value cache' map k = none := by
  obtain ⟨hc, hm⟩ := serve_eq_none_iff.mp h
  refine serve_eq_none_iff.mpr ⟨fun e he hk => ?_, hm⟩
  rcases hs e he with ⟨e', he', hk', -⟩ | hm'
  · exact hc e' he' (hk'.trans hk)
  · rw [hk, hm] at hm'
    cases hm'

/-- **Transparency.** Through an agreeing cache one sees the map. -/
theorem Agrees.serve (h : Agrees key value cache map) :
    Lookaside.serve key value cache map k = map k := by
  unfold Lookaside.serve
  cases hc : held key value cache k with
  | none => rfl
  | some a =>
      obtain ⟨e, he, rfl, rfl⟩ := held_eq_some hc
      exact (h e he).symm

end Lookaside
