import Mathlib.Logic.Relation
import Mathlib.Tactic.Common

/-! # Loops that may not end.

The body of a `while` loop either leaves the loop with a result or goes on in a
new state. Whether the loop ends is a question about the states it goes through,
and the rules below answer it: a loop ends where its next round does, and does not
where an invariant keeps every round from leaving. Fuel is only there to run it. -/

universe u v

/-- What one round does in a state: leave with a result, or go on. -/
structure Loop (σ : Type u) (ρ : Type v) where
  body : σ → ρ ⊕ σ

namespace Loop
variable {σ : Type u} {ρ : Type v} (l : Loop σ ρ)

/-- At most `n` rounds; `none` when the loop has not been left by then. -/
def run : Nat → σ → Option ρ
  | 0, _ => none
  | n + 1, s =>
      match l.body s with
      | .inl r => some r
      | .inr t => run n t

def Returns (s : σ) (r : ρ) : Prop := ∃ n, l.run n s = some r

def Halts (s : σ) : Prop := ∃ r, l.Returns s r

variable {l} {s t : σ} {r r' : ρ} {n m : Nat}

theorem run_of_inl (h : l.body s = .inl r) : l.run (n + 1) s = some r := by
  rw [run, h]

theorem run_of_inr (h : l.body s = .inr t) : l.run (n + 1) s = l.run n t := by
  rw [run, h]

/-- More fuel changes nothing. -/
theorem run_mono (hle : n ≤ m) (h : l.run n s = some r) : l.run m s = some r := by
  -- on the fuel that was enough, for every state the loop comes through
  induction n generalizing s m with
  | zero => cases h
  | succ n ih =>
      obtain ⟨m, rfl⟩ := Nat.exists_eq_add_of_le' hle
      cases hb : l.body s with
      | inl q =>
          rw [run_of_inl hb] at h
          rw [← Nat.add_assoc, run_of_inl hb]
          exact h
      | inr t =>
          rw [run_of_inr hb] at h
          rw [← Nat.add_assoc, run_of_inr hb]
          exact ih (Nat.le_add_left n m) h

theorem Returns.unique (h : l.Returns s r) (h' : l.Returns s r') : r = r' := by
  obtain ⟨n, hn⟩ := h
  obtain ⟨m, hm⟩ := h'
  have hn' := run_mono (Nat.le_max_left n m) hn
  have hm' := run_mono (Nat.le_max_right n m) hm
  exact Option.some.inj (hn'.symm.trans hm')

theorem returns_of_inl (h : l.body s = .inl r) : l.Returns s r := ⟨1, run_of_inl h⟩

theorem returns_iff_of_inr (h : l.body s = .inr t) : l.Returns s r ↔ l.Returns t r := by
  constructor
  · rintro ⟨n, hn⟩
    cases n with
    | zero => cases hn
    | succ n => exact ⟨n, (run_of_inr h).symm.trans hn⟩
  · rintro ⟨n, hn⟩
    exact ⟨n + 1, (run_of_inr h).trans hn⟩

theorem halts_of_inl (h : l.body s = .inl r) : l.Halts s := ⟨r, returns_of_inl h⟩

theorem halts_iff_of_inr (h : l.body s = .inr t) : l.Halts s ↔ l.Halts t :=
  exists_congr fun _ => returns_iff_of_inr h

/-- **Invariant rule.** Where every round goes on, the loop does not end. -/
theorem not_halts_of_invariant {I : σ → Prop} (hI : ∀ s, I s → ∃ t, l.body s = .inr t ∧ I t)
    (hs : I s) : ¬ l.Halts s := by
  rintro ⟨r, n, hn⟩
  -- on the fuel with which it is said to end
  induction n generalizing s with
  | zero => cases hn
  | succ n ih =>
      obtain ⟨t, hb, ht⟩ := hI s hs
      exact ih ht ((run_of_inr hb).symm.trans hn)

/-! ## States on the way -/

variable (l) in
/-- The states the rounds come through. -/
def Reaches : σ → σ → Prop := Relation.ReflTransGen fun s t => l.body s = .inr t

theorem Reaches.refl : l.Reaches s s := Relation.ReflTransGen.refl

theorem Reaches.head {u : σ} (h : l.body s = .inr t) (ht : l.Reaches t u) : l.Reaches s u :=
  Relation.ReflTransGen.head h ht

theorem Reaches.trans {u : σ} (h : l.Reaches s t) (h' : l.Reaches t u) : l.Reaches s u :=
  Relation.ReflTransGen.trans h h'

/-- The result is that of any state on the way. -/
theorem Reaches.returns_iff (h : l.Reaches s t) : l.Returns s r ↔ l.Returns t r := by
  induction h with
  | refl => exact Iff.rfl
  | tail _ hstep ih => exact ih.trans (returns_iff_of_inr hstep)

/-- The loop ends exactly if it does from any state on the way. -/
theorem Reaches.halts_iff (h : l.Reaches s t) : l.Halts s ↔ l.Halts t :=
  exists_congr fun _ => h.returns_iff

/-- What every round keeps holds in every state on the way. -/
theorem Reaches.keeps {I : σ → Prop} (hI : ∀ t u, I t → l.body t = .inr u → I u)
    (h : l.Reaches s t) (hs : I s) : I t := by
  induction h with
  | refl => exact hs
  | tail _ hstep ih => exact hI _ _ ih hstep

/-- The result comes from the last state on the way. -/
theorem Returns.exists_reaches (h : l.Returns s r) : ∃ t, l.Reaches s t ∧ l.body t = .inl r := by
  obtain ⟨n, hn⟩ := h
  induction n generalizing s with
  | zero => cases hn
  | succ n ih =>
      cases hb : l.body s with
      | inl q =>
          rw [run_of_inl hb] at hn
          cases hn
          exact ⟨s, .refl, hb⟩
      | inr t =>
          rw [run_of_inr hb] at hn
          obtain ⟨u, hu, hr⟩ := ih hn
          exact ⟨u, .head hb hu, hr⟩

/-- **Measure rule.** Where every round on the way makes a measure smaller, the loop
ends. -/
theorem halts_of_measure (μ : σ → Nat)
    (hμ : ∀ t u, l.Reaches s t → l.body t = .inr u → μ u < μ t) : l.Halts s := by
  induction hn : μ s using Nat.strongRecOn generalizing s with
  | _ n ih =>
      cases hb : l.body s with
      | inl r => exact halts_of_inl hb
      | inr t =>
          have hlt : μ t < n := hn ▸ hμ s t .refl hb
          rw [halts_iff_of_inr hb]
          exact ih (μ t) hlt (fun u v hu hv => hμ u v (.head hb hu) hv) rfl

/-- A round on the way that changes nothing is the last one to be seen. -/
theorem not_halts_of_stuck (h : l.Reaches s t) (hstuck : l.body t = .inr t) : ¬ l.Halts s := by
  rw [h.halts_iff]
  exact not_halts_of_invariant (I := fun u => u = t) (fun u hu => ⟨t, hu ▸ hstuck, rfl⟩) rfl

end Loop
