import VMQemuVGA.Lib.Machine

/-! # Machines that keep notes of their runs.

What a run has done is not always to be read off the state it ends in. Here a
machine is given notes to keep beside its state: every step writes down
something about itself, and nothing it does depends on what is written. The
rules below say so, once for runs and once for the conditions on their steps.
They hold whatever is noted. -/

universe u v w

namespace Machine
variable {σ : Type u} {α : Type v} {η : Type w} (m : Machine σ α)
variable (h₀ : η) (note : σ → α → σ → η → η)

/-- The machine with the notes `h₀` to begin with; `note s a t` adds what there
is to say about the step from `s` to `t`. -/
def withHistory : Machine (σ × η) α where
  init := (m.init, h₀)
  step := fun p a => (m.step p.1 a).map fun t => (t, note p.1 a t p.2)

theorem withHistory_step_eq_some {p p' : σ × η} {a : α} :
    (m.withHistory h₀ note).step p a = some p' ↔
      m.step p.1 a = some p'.1 ∧ p'.2 = note p.1 a p'.1 p.2 := by
  show (m.step p.1 a).map _ = some p' ↔ _
  rw [Option.map_eq_some_iff]
  constructor
  · rintro ⟨t, ht, rfl⟩
    exact ⟨ht, rfl⟩
  · rintro ⟨ht, hnote⟩
    exact ⟨p'.1, ht, Prod.ext rfl hnote.symm⟩

theorem withHistory_step_eq_none {p : σ × η} {a : α} :
    (m.withHistory h₀ note).step p a = none ↔ m.step p.1 a = none :=
  Option.map_eq_none_iff

/-- A condition on steps that does not look at the notes. -/
theorem along_withHistory {C : σ → α → Prop} (p : σ × η) (as : List α) :
    (m.withHistory h₀ note).Along (fun p a => C p.1 a) p as ↔ m.Along C p.1 as := by
  induction as generalizing p with
  | nil => exact Iff.rfl
  | cons a as ih =>
      cases h : m.step p.1 a with
      | none =>
          have h' := (m.withHistory_step_eq_none h₀ note).mpr h
          exact ⟨fun _ => m.along_cons_none h, fun _ => along_cons_none _ h'⟩
      | some t =>
          have h' : (m.withHistory h₀ note).step p a = some (t, note p.1 a t p.2) :=
            (m.withHistory_step_eq_some h₀ note).mpr ⟨h, rfl⟩
          rw [along_cons_some _ h', m.along_cons_some h]
          exact and_congr_right fun _ => ih (t, note p.1 a t p.2)

/-- A property of states that does not look at the notes. -/
theorem always_withHistory {P : σ → Prop} (p : σ × η) (as : List α) :
    (m.withHistory h₀ note).Always (fun p => P p.1) p as ↔ m.Always P p.1 as := by
  induction as generalizing p with
  | nil => exact Iff.rfl
  | cons a as ih =>
      cases h : m.step p.1 a with
      | none =>
          have h' := (m.withHistory_step_eq_none h₀ note).mpr h
          rw [always_cons_none _ h', m.always_cons_none h]
      | some t =>
          have h' : (m.withHistory h₀ note).step p a = some (t, note p.1 a t p.2) :=
            (m.withHistory_step_eq_some h₀ note).mpr ⟨h, rfl⟩
          rw [always_cons_some _ h', m.always_cons_some h]
          exact and_congr_right fun _ => ih (t, note p.1 a t p.2)

end Machine
