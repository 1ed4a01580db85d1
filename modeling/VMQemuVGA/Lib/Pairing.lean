import Mathlib.Data.List.Nodup
import Mathlib.Logic.Relator
import Mathlib.Tactic.Common

/-! # The same thing under two numbers

Two runs of a program that draws fresh numbers number the same things
differently. Of each run there is the list of numbers it drew, in order; below
`base` nothing is drawn, and a number stands for itself. `Partner base l l'` says
that two numbers stand for the same thing. -/

namespace Pairing

/-- Numbers drawn from `base` up, none of them twice. -/
structure Drawn (base : Nat) (l : List Nat) : Prop where
  nodup : l.Nodup
  base_le : ∀ n ∈ l, base ≤ n

variable {base n n' : Nat} {l l' : List Nat}

theorem Drawn.nil : Drawn base [] := ⟨List.nodup_nil, fun _ h => (by cases h)⟩

/-- More numbers, that have not been drawn yet. -/
theorem Drawn.append {d : List Nat} (h : Drawn base l) (hd : Drawn base d)
    (hnew : ∀ n ∈ d, n ∉ l) : Drawn base (l ++ d) where
  nodup := List.nodup_append.mpr ⟨h.nodup, hd.nodup, fun n hn m hm heq => hnew m hm (heq ▸ hn)⟩
  base_le := by
    intro n hn
    rcases List.mem_append.mp hn with hn | hn
    · exact h.base_le n hn
    · exact hd.base_le n hn

theorem Drawn.singleton {a : Nat} (ha : base ≤ a) : Drawn base [a] where
  nodup := List.nodup_singleton a
  base_le := by
    intro n hn
    rw [List.mem_singleton.mp hn]
    exact ha

/-- `n` stands in one run for what `n'` stands for in the other. -/
def Partner (base : Nat) (l l' : List Nat) (n n' : Nat) : Prop :=
  (n < base ∧ n = n') ∨ ∃ k : Nat, l[k]? = some n ∧ l'[k]? = some n'

/-- A number stands for one thing, and a thing has one number. -/
theorem biUnique_partner (h : Drawn base l) (h' : Drawn base l') :
    Relator.BiUnique (Partner base l l') := by
  constructor
  · rintro n m n' (⟨hn, rfl⟩ | ⟨k, hk, hk'⟩) (⟨hm, rfl⟩ | ⟨j, hj, hj'⟩)
    · rfl
    · exact absurd (h'.base_le _ (List.mem_of_getElem? hj')) (by omega)
    · exact absurd (h'.base_le _ (List.mem_of_getElem? hk')) (by omega)
    · obtain ⟨hlt, -⟩ := List.getElem?_eq_some_iff.mp hk'
      have hkj : k = j := (List.getElem?_inj hlt h'.nodup).mp (hk'.trans hj'.symm)
      rw [hkj, hj] at hk
      exact (Option.some.inj hk).symm
  · rintro n n' m' (⟨hn, rfl⟩ | ⟨k, hk, hk'⟩) (⟨hm, rfl⟩ | ⟨j, hj, hj'⟩)
    · rfl
    · exact absurd (h.base_le _ (List.mem_of_getElem? hj)) (by omega)
    · exact absurd (h.base_le _ (List.mem_of_getElem? hk)) (by omega)
    · obtain ⟨hlt, -⟩ := List.getElem?_eq_some_iff.mp hk
      have hkj : k = j := (List.getElem?_inj hlt h.nodup).mp (hk.trans hj.symm)
      rw [hkj, hj'] at hk'
      exact (Option.some.inj hk').symm

theorem partner_zero (hbase : 0 < base) : Partner base l l' 0 0 := Or.inl ⟨hbase, rfl⟩

/-- What has a partner was drawn, or is below all that is drawn. -/
theorem Partner.mem_or_lt (h : Partner base l l' n n') : n ∈ l ∨ n < base := by
  rcases h with ⟨hn, -⟩ | ⟨k, hk, -⟩
  · exact Or.inr hn
  · exact Or.inl (List.mem_of_getElem? hk)

/-- Partners were both drawn, -/
theorem Partner.mem_iff (hl : Drawn base l) (hl' : Drawn base l') (h : Partner base l l' n n') :
    n ∈ l ↔ n' ∈ l' := by
  rcases h with ⟨hn, rfl⟩ | ⟨k, hk, hk'⟩
  · have hnot : n ∉ l := fun hmem => Nat.not_lt.mpr (hl.base_le n hmem) hn
    have hnot' : n ∉ l' := fun hmem => Nat.not_lt.mpr (hl'.base_le n hmem) hn
    exact iff_of_false hnot hnot'
  · exact iff_of_true (List.mem_of_getElem? hk) (List.mem_of_getElem? hk')

/-- or neither was. -/
theorem Partner.lt_iff (hl : Drawn base l) (hl' : Drawn base l') (h : Partner base l l' n n') :
    n < base ↔ n' < base := by
  rcases h with ⟨hn, rfl⟩ | ⟨k, hk, hk'⟩
  · exact Iff.rfl
  · have hle := hl.base_le n (List.mem_of_getElem? hk)
    have hle' := hl'.base_le n' (List.mem_of_getElem? hk')
    exact iff_of_false (Nat.not_lt.mpr hle) (Nat.not_lt.mpr hle')

/-- Each run draws numbers for the same new things. -/
theorem partner_append_iff {d d' : List Nat} (hlen : l.length = l'.length) :
    Partner base (l ++ d) (l' ++ d') n n' ↔
      Partner base l l' n n' ∨ ∃ k : Nat, d[k]? = some n ∧ d'[k]? = some n' := by
  unfold Partner
  constructor
  · rintro (h | ⟨k, hk, hk'⟩)
    · exact Or.inl (Or.inl h)
    · by_cases hlt : k < l.length
      · rw [List.getElem?_append_left hlt] at hk
        rw [List.getElem?_append_left (hlen ▸ hlt)] at hk'
        exact Or.inl (Or.inr ⟨k, hk, hk'⟩)
      · have hge : l.length ≤ k := Nat.le_of_not_lt hlt
        rw [List.getElem?_append_right hge] at hk
        rw [List.getElem?_append_right (hlen ▸ hge), ← hlen] at hk'
        exact Or.inr ⟨_, hk, hk'⟩
  · rintro ((h | ⟨k, hk, hk'⟩) | ⟨k, hk, hk'⟩)
    · exact Or.inl h
    · obtain ⟨hlt, -⟩ := List.getElem?_eq_some_iff.mp hk
      obtain ⟨hlt', -⟩ := List.getElem?_eq_some_iff.mp hk'
      refine Or.inr ⟨k, ?_, ?_⟩
      · rw [List.getElem?_append_left hlt, hk]
      · rw [List.getElem?_append_left hlt', hk']
    · refine Or.inr ⟨l.length + k, ?_, ?_⟩
      · rw [List.getElem?_append_right (Nat.le_add_right _ _), Nat.add_sub_cancel_left, hk]
      · rw [hlen, List.getElem?_append_right (Nat.le_add_right _ _), Nat.add_sub_cancel_left, hk']

/-- What is paired stays paired. -/
theorem Partner.append {d d' : List Nat} (hlen : l.length = l'.length)
    (h : Partner base l l' n n') : Partner base (l ++ d) (l' ++ d') n n' :=
  (partner_append_iff hlen).mpr (Or.inl h)

/-! ## Names

What a program passes on is a thing it was given, by its place in the order of
drawing, or a number it makes up. -/

inductive Name where
  | own (k : Nat)
  | raw (n : Nat)
  deriving DecidableEq, Repr

namespace Name

/-- The number a name stands for. -/
def resolve (drawn : List Nat) : Name → Option Nat
  | own k => drawn[k]?
  | raw n => some n

/-- A name that is not a guess at a drawn number. -/
def Known (base : Nat) : Name → Prop
  | own _ => True
  | raw n => n < base

instance (base : Nat) : (name : Name) → Decidable (name.Known base)
  | own _ => isTrue trivial
  | raw n => inferInstanceAs (Decidable (n < base))

/-- A known name stands for the same thing in both runs. -/
theorem resolve_partner {name : Name} (hknown : name.Known base) (hlen : l.length = l'.length)
    (h : name.resolve l = some n) : ∃ n', name.resolve l' = some n' ∧ Partner base l l' n n' := by
  cases name with
  | own k =>
      obtain ⟨hlt, -⟩ := List.getElem?_eq_some_iff.mp h
      have hk' : l'[k]? = some l'[k] := List.getElem?_eq_getElem (hlen ▸ hlt)
      exact ⟨_, hk', Or.inr ⟨k, h, hk'⟩⟩
  | raw m =>
      obtain rfl : m = n := Option.some.inj h
      exact ⟨m, rfl, Or.inl ⟨hknown, rfl⟩⟩

/-- What is made of a known name is made of partners, -/
theorem map_resolve_partner {α : Type} {f : Nat → α} {a : α} {name : Name}
    (hknown : name.Known base) (hlen : l.length = l'.length)
    (h : (name.resolve l).map f = some a) :
    ∃ n n', Partner base l l' n n' ∧ f n = a ∧ (name.resolve l').map f = some (f n') := by
  obtain ⟨n, hn, rfl⟩ := Option.map_eq_some_iff.mp h
  obtain ⟨n', hn', hp⟩ := resolve_partner hknown hlen hn
  refine ⟨n, n', hp, rfl, ?_⟩
  rw [hn', Option.map_some]

/-- and so is what is made of two. -/
theorem bind_resolve_partner {α : Type} {f : Nat → Nat → α} {a : α} {name₁ name₂ : Name}
    {l₁ l₁' l₂ l₂' : List Nat} (h₁ : name₁.Known base) (h₂ : name₂.Known base)
    (hlen₁ : l₁.length = l₁'.length) (hlen₂ : l₂.length = l₂'.length)
    (h : ((name₁.resolve l₁).bind fun n => (name₂.resolve l₂).map (f n)) = some a) :
    ∃ n n' m m', Partner base l₁ l₁' n n' ∧ Partner base l₂ l₂' m m' ∧ f n m = a ∧
      ((name₁.resolve l₁').bind fun n => (name₂.resolve l₂').map (f n)) = some (f n' m') := by
  obtain ⟨n, hn, ha⟩ := Option.bind_eq_some_iff.mp h
  obtain ⟨n', hn', hp⟩ := resolve_partner h₁ hlen₁ hn
  obtain ⟨m, hm, rfl⟩ := Option.map_eq_some_iff.mp ha
  obtain ⟨m', hm', hq⟩ := resolve_partner h₂ hlen₂ hm
  refine ⟨n, n', m, m', hp, hq, rfl, ?_⟩
  rw [hn', Option.bind_some, hm', Option.map_some]

end Name
end Pairing
