import Mathlib.Tactic.Common

/-! # Machines run over lists of events.

A `Machine` is a state with a partial step function: `step s a = none` says
that event `a` cannot happen in state `s`. Everything a driver and its
environment can do in some order is a run of such a machine.

Two readings of a run are kept apart. `Always P` speaks about the states the
run goes through, `Along C` about the steps it takes. The rules below turn
facts about one step into facts about whole runs. -/

universe u v w

/-- A state to start from and the step of each event, where it is enabled. -/
structure Machine (σ : Type u) (α : Type v) where
  init : σ
  step : σ → α → Option σ

namespace Machine
variable {σ : Type u} {α : Type v} (m : Machine σ α)

/-- Run a list of events; `none` when some event is not enabled. -/
def run : σ → List α → Option σ
  | s, [] => some s
  | s, a :: as =>
      match m.step s a with
      | none => none
      | some t => run t as

/-- Every step the events take from `s` meets `C`. -/
def Along (C : σ → α → Prop) : σ → List α → Prop
  | _, [] => True
  | s, a :: as =>
      match m.step s a with
      | none => True
      | some t => C s a ∧ Along C t as

/-- Every state the events reach from `s` satisfies `P`. -/
def Always (P : σ → Prop) : σ → List α → Prop
  | s, [] => P s
  | s, a :: as =>
      P s ∧ match m.step s a with
        | none => True
        | some t => Always P t as

/-! ## Equations -/

@[simp] theorem run_nil (s : σ) : m.run s [] = some s := rfl

theorem run_cons (s : σ) (a : α) (as : List α) :
    m.run s (a :: as) = (m.step s a).bind fun t => m.run t as := by
  rw [run]
  cases m.step s a <;> rfl

theorem run_cons_some {s t : σ} {a : α} {as : List α} (h : m.step s a = some t) :
    m.run s (a :: as) = m.run t as := by
  rw [run_cons, h]
  rfl

theorem run_cons_eq_some {s u : σ} {a : α} {as : List α} :
    m.run s (a :: as) = some u ↔ ∃ t, m.step s a = some t ∧ m.run t as = some u := by
  rw [run_cons]
  exact Option.bind_eq_some_iff

/-- A run goes on where its first part gets to. -/
theorem run_append {s t : σ} {as bs : List α} (h : m.run s as = some t) :
    m.run s (as ++ bs) = m.run t bs := by
  induction as generalizing s with
  | nil =>
      simp only [run_nil, Option.some.injEq] at h
      rw [List.nil_append, h]
  | cons a as ih =>
      obtain ⟨r, hs, hr⟩ := m.run_cons_eq_some.mp h
      rw [List.cons_append, m.run_cons_some hs]
      exact ih hr

theorem along_cons_some {C : σ → α → Prop} {s t : σ} {a : α} {as : List α}
    (h : m.step s a = some t) : m.Along C s (a :: as) ↔ C s a ∧ m.Along C t as := by
  simp only [Along, h]

theorem along_cons_none {C : σ → α → Prop} {s : σ} {a : α} {as : List α}
    (h : m.step s a = none) : m.Along C s (a :: as) := by
  simp only [Along, h]

theorem always_cons_some {P : σ → Prop} {s t : σ} {a : α} {as : List α}
    (h : m.step s a = some t) : m.Always P s (a :: as) ↔ P s ∧ m.Always P t as := by
  simp only [Always, h]

theorem always_cons_none {P : σ → Prop} {s : σ} {a : α} {as : List α}
    (h : m.step s a = none) : m.Always P s (a :: as) ↔ P s := by
  simp only [Always, h, and_true]

theorem Always.head {P : σ → Prop} {s : σ} {as : List α} (h : m.Always P s as) : P s := by
  cases as with
  | nil => exact h
  | cons a as => exact h.1

/-- What holds all along a run holds where it ends. -/
theorem Always.run {P : σ → Prop} {s t : σ} {as : List α} (h : m.Always P s as)
    (hr : m.run s as = some t) : P t := by
  induction as generalizing s with
  | nil =>
      simp only [run_nil, Option.some.injEq] at hr
      exact hr ▸ h
  | cons a as ih =>
      obtain ⟨r, hs, hrun⟩ := m.run_cons_eq_some.mp hr
      exact ih ((m.always_cons_some hs).mp h).2 hrun

/-- The end of a concrete run, as far as a computable test sees it, satisfies
what holds all along the run. -/
theorem Always.of_any {P : σ → Prop} {p : σ → Bool} {s : σ} {as : List α}
    (h : m.Always P s as) (hr : (m.run s as).any p = true) : ∃ t, P t ∧ p t = true := by
  obtain ⟨t, ht, hp⟩ := (Option.any_eq_true p _).mp hr
  exact ⟨t, h.run m ht, hp⟩

/-! ## Invariants -/

theorem along_true (s : σ) (as : List α) : m.Along (fun _ _ => True) s as := by
  induction as generalizing s with
  | nil => trivial
  | cons a as ih =>
      cases h : m.step s a with
      | none => exact m.along_cons_none h
      | some t => exact (m.along_cons_some h).mpr ⟨trivial, ih t⟩

/-- A run along `C` goes through states of the invariant only. -/
theorem always_of_along {I : σ → Prop} {C : σ → α → Prop}
    (hstep : ∀ s a t, I s → C s a → m.step s a = some t → I t)
    {s : σ} {as : List α} (h₀ : I s) (hC : m.Along C s as) : m.Always I s as := by
  induction as generalizing s with
  | nil => exact h₀
  | cons a as ih =>
      cases h : m.step s a with
      | none => exact (m.always_cons_none h).mpr h₀
      | some t =>
          obtain ⟨ha, has⟩ := (m.along_cons_some h).mp hC
          exact (m.always_cons_some h).mpr ⟨h₀, ih (hstep s a t h₀ ha h) has⟩

/-- Under an invariant, a condition on steps may be exchanged for what follows
from it. -/
theorem along_of_along {I : σ → Prop} {C D : σ → α → Prop}
    (hI : ∀ s a t, I s → C s a → m.step s a = some t → I t)
    (hD : ∀ s a t, I s → C s a → m.step s a = some t → D s a)
    {s : σ} {as : List α} (h₀ : I s) (hC : m.Along C s as) : m.Along D s as := by
  induction as generalizing s with
  | nil => trivial
  | cons a as ih =>
      cases h : m.step s a with
      | none => exact m.along_cons_none h
      | some t =>
          obtain ⟨ha, has⟩ := (m.along_cons_some h).mp hC
          exact (m.along_cons_some h).mpr ⟨hD s a t h₀ ha h, ih (hI s a t h₀ ha h) has⟩

/-- **Exact condition on steps.** If steps that meet `C` keep the invariant, and under it
`C` and `D` are the same, then they are the same along every run. -/
theorem along_iff_along {I : σ → Prop} {C D : σ → α → Prop}
    (hI : ∀ s a t, I s → C s a → m.step s a = some t → I t)
    (hCD : ∀ s a t, I s → m.step s a = some t → (C s a ↔ D s a))
    {s : σ} {as : List α} (h₀ : I s) : m.Along C s as ↔ m.Along D s as := by
  constructor
  · intro hC
    exact m.along_of_along hI (fun s a t hs hc ht => (hCD s a t hs ht).mp hc) h₀ hC
  · intro hD
    have hI' : ∀ s a t, I s → D s a → m.step s a = some t → I t := by
      intro s a t hs hd ht
      exact hI s a t hs ((hCD s a t hs ht).mpr hd) ht
    exact m.along_of_along hI' (fun s a t hs hd ht => (hCD s a t hs ht).mpr hd) h₀ hD

/-- A preorder that every step respects under an invariant, the run respects. -/
theorem rel_of_along {I : σ → Prop} {C : σ → α → Prop} {R : σ → σ → Prop}
    (hrefl : ∀ s, R s s) (htrans : ∀ s t u, R s t → R t u → R s u)
    (hI : ∀ s a t, I s → C s a → m.step s a = some t → I t)
    (hR : ∀ s a t, I s → C s a → m.step s a = some t → R s t)
    {s t : σ} {as : List α} (h₀ : I s) (hC : m.Along C s as) (hrun : m.run s as = some t) :
    R s t := by
  induction as generalizing s with
  | nil =>
      simp only [run_nil, Option.some.injEq] at hrun
      exact hrun ▸ hrefl s
  | cons a as ih =>
      obtain ⟨r, h, hr⟩ := m.run_cons_eq_some.mp hrun
      obtain ⟨ha, has⟩ := (m.along_cons_some h).mp hC
      exact htrans s r t (hR s a r h₀ ha h) (ih (hI s a r h₀ ha h) has hr)

/-- Both conditions at once. -/
theorem along_and {C D : σ → α → Prop} {s : σ} {as : List α} :
    m.Along (fun s a => C s a ∧ D s a) s as ↔ m.Along C s as ∧ m.Along D s as := by
  induction as generalizing s with
  | nil => exact ⟨fun _ => ⟨trivial, trivial⟩, fun _ => trivial⟩
  | cons a as ih =>
      cases h : m.step s a with
      | none =>
          exact ⟨fun _ => ⟨m.along_cons_none h, m.along_cons_none h⟩, fun _ => m.along_cons_none h⟩
      | some t =>
          rw [m.along_cons_some h, m.along_cons_some h, m.along_cons_some h, ih]
          exact and_and_and_comm

/-- A condition along a run holds along what the run goes on with. -/
theorem along_append {C : σ → α → Prop} {s t : σ} {as bs : List α} (hrun : m.run s as = some t) :
    m.Along C s (as ++ bs) ↔ m.Along C s as ∧ m.Along C t bs := by
  induction as generalizing s with
  | nil =>
      simp only [run_nil, Option.some.injEq] at hrun
      subst hrun
      exact ⟨fun h => ⟨trivial, h⟩, And.right⟩
  | cons a as ih =>
      obtain ⟨r, h, hr⟩ := m.run_cons_eq_some.mp hrun
      rw [List.cons_append, m.along_cons_some h, m.along_cons_some h, ih hr, and_assoc]

theorem Always.imp {P Q : σ → Prop} (hPQ : ∀ s, P s → Q s) {s : σ} {as : List α}
    (h : m.Always P s as) : m.Always Q s as := by
  induction as generalizing s with
  | nil => exact hPQ s h
  | cons a as ih =>
      cases hs : m.step s a with
      | none => exact (m.always_cons_none hs).mpr (hPQ s h.1)
      | some t =>
          obtain ⟨hp, ht⟩ := (m.always_cons_some hs).mp h
          exact (m.always_cons_some hs).mpr ⟨hPQ s hp, ih ht⟩

/-- A property that a step between states of `P` keeps comes along with `P`. -/
theorem Always.strengthen {J P Q : σ → Prop}
    (hJ : ∀ s a t, J s → m.step s a = some t → J t)
    (hQ : ∀ s a t, J s → Q s → m.step s a = some t → P t → Q t)
    {s : σ} {as : List α} (hJ₀ : J s) (hQ₀ : Q s) (h : m.Always P s as) :
    m.Always (fun s => P s ∧ Q s) s as := by
  induction as generalizing s with
  | nil => exact ⟨h, hQ₀⟩
  | cons a as ih =>
      cases hs : m.step s a with
      | none => exact (m.always_cons_none hs).mpr ⟨h.1, hQ₀⟩
      | some t =>
          obtain ⟨hp, ht⟩ := (m.always_cons_some hs).mp h
          have hQt : Q t := hQ s a t hJ₀ hQ₀ hs (Always.head m ht)
          exact (m.always_cons_some hs).mpr ⟨⟨hp, hQ₀⟩, ih (hJ s a t hJ₀ hs) hQt ht⟩

/-- **Exact condition, guarded.** Under an invariant `J` of the steps that meet
`D`, if `P` survives such a step exactly when the step meets `C`, then along `D`
`P` holds all along a run exactly when all steps of the run meet `C`. -/
theorem always_iff_along_of {J P : σ → Prop} {C D : σ → α → Prop}
    (hJ : ∀ s a t, J s → D s a → m.step s a = some t → J t)
    (hP : ∀ s a t, J s → P s → D s a → m.step s a = some t → (P t ↔ C s a))
    {s : σ} {as : List α} (hD : m.Along D s as) (hJ₀ : J s) (hP₀ : P s) :
    m.Always P s as ↔ m.Along C s as := by
  induction as generalizing s with
  | nil => exact ⟨fun _ => trivial, fun _ => hP₀⟩
  | cons a as ih =>
      cases h : m.step s a with
      | none =>
          rw [m.always_cons_none h]
          exact ⟨fun _ => m.along_cons_none h, fun _ => hP₀⟩
      | some t =>
          obtain ⟨hDa, hDs⟩ := (m.along_cons_some h).mp hD
          rw [m.always_cons_some h, m.along_cons_some h]
          have hiff := hP s a t hJ₀ hP₀ hDa h
          constructor
          · rintro ⟨-, ht⟩
            have hPt : P t := Always.head m ht
            exact ⟨hiff.mp hPt, (ih hDs (hJ s a t hJ₀ hDa h) hPt).mp ht⟩
          · rintro ⟨hC, hs⟩
            have hPt : P t := hiff.mpr hC
            exact ⟨hP₀, (ih hDs (hJ s a t hJ₀ hDa h) hPt).mpr hs⟩

/-- **Exact condition.** Under an invariant `J` of every step, if `P` survives
a step exactly when the step meets `C`, then `P` holds all along a run exactly
when all steps of the run meet `C`. -/
theorem always_iff_along {J P : σ → Prop} {C : σ → α → Prop}
    (hJ : ∀ s a t, J s → m.step s a = some t → J t)
    (hP : ∀ s a t, J s → P s → m.step s a = some t → (P t ↔ C s a))
    {s : σ} {as : List α} (hJ₀ : J s) (hP₀ : P s) :
    m.Always P s as ↔ m.Along C s as :=
  m.always_iff_along_of (fun s a t hJs _ => hJ s a t hJs)
    (fun s a t hJs hPs _ => hP s a t hJs hPs) (m.along_true s as) hJ₀ hP₀

/-- **Exact condition, by an invariant of the steps that meet it.** Where `P` survives a step
from the invariant `Q` only if the step meets `C`, and such a step keeps `Q`, which has `P`
in it, `P` holds all along a run exactly when all steps of the run meet `C`. -/
theorem always_iff_along_within {P Q : σ → Prop} {C : σ → α → Prop} (hQP : ∀ s, Q s → P s)
    (hP : ∀ s a t, Q s → m.step s a = some t → P t → C s a)
    (hQ : ∀ s a t, Q s → C s a → m.step s a = some t → Q t)
    {s : σ} {as : List α} (hQ₀ : Q s) : m.Always P s as ↔ m.Along C s as := by
  constructor
  · intro h
    induction as generalizing s with
    | nil => trivial
    | cons a as ih =>
        cases hs : m.step s a with
        | none => exact m.along_cons_none hs
        | some t =>
            obtain ⟨-, ht⟩ := (m.always_cons_some hs).mp h
            have hC := hP s a t hQ₀ hs (Always.head m ht)
            exact (m.along_cons_some hs).mpr ⟨hC, ih (hQ s a t hQ₀ hC hs) ht⟩
  · intro hC
    exact (m.always_of_along hQ hQ₀ hC).imp m hQP

/-! ## Leaving events out -/

/-- What holds at the end of a run and did not at its start, one of its steps has brought. -/
theorem exists_origin {P : σ → Prop} {s t : σ} {as : List α} (hrun : m.run s as = some t)
    (hs : ¬ P s) (ht : P t) :
    ∃ before a after u v, as = before ++ a :: after ∧ m.run s before = some u ∧
      m.step u a = some v ∧ m.run v after = some t ∧ ¬ P u ∧ P v := by
  induction as generalizing s with
  | nil =>
      simp only [run_nil, Option.some.injEq] at hrun
      exact absurd (hrun ▸ ht) hs
  | cons a as ih =>
      obtain ⟨r, hstep, hr⟩ := m.run_cons_eq_some.mp hrun
      by_cases hP : P r
      · exact ⟨[], a, as, s, r, rfl, rfl, hstep, hr, hs, hP⟩
      · obtain ⟨before, b, after, u, v, rfl, hbefore, hrest⟩ := ih hr hP
        exact ⟨a :: before, b, after, u, v, rfl, m.run_cons_eq_some.mpr ⟨r, hstep, hbefore⟩, hrest⟩

/-- A run and the same run without its hidden events stay related, if a hidden
step keeps the relation on its own and every other step is taken on both sides.
`C` speaks about the run with all events. -/
theorem run_filter {R : σ → σ → Prop} {C : σ → α → Prop} {keep : α → Bool}
    (hhidden : ∀ s t a s', R s t → C s a → keep a = false → m.step s a = some s' → R s' t)
    (hkept : ∀ s t a s', R s t → C s a → keep a = true → m.step s a = some s' →
      ∃ t', m.step t a = some t' ∧ R s' t')
    {s t s' : σ} {as : List α} (hR : R s t) (hC : m.Along C s as) (hrun : m.run s as = some s') :
    ∃ t', m.run t (as.filter keep) = some t' ∧ R s' t' := by
  induction as generalizing s t with
  | nil =>
      simp only [run_nil, Option.some.injEq] at hrun
      exact ⟨t, rfl, hrun ▸ hR⟩
  | cons a as ih =>
      obtain ⟨r, h, hr⟩ := m.run_cons_eq_some.mp hrun
      obtain ⟨ha, has⟩ := (m.along_cons_some h).mp hC
      cases hkeep : keep a with
      | false =>
          rw [List.filter_cons_of_neg (by rw [hkeep]; exact Bool.false_ne_true)]
          exact ih (hhidden s t a r hR ha hkeep h) has hr
      | true =>
          obtain ⟨t₁, ht, hR₁⟩ := hkept s t a r hR ha hkeep h
          obtain ⟨t', hrun', hR'⟩ := ih hR₁ has hr
          rw [List.filter_cons_of_pos hkeep]
          exact ⟨t', m.run_cons_eq_some.mpr ⟨t₁, ht, hrun'⟩, hR'⟩

/-! ## Deciding a concrete run -/

instance decidableAlong (C : σ → α → Prop) [∀ s a, Decidable (C s a)] :
    ∀ (s : σ) (as : List α), Decidable (m.Along C s as)
  | _, [] => isTrue trivial
  | s, a :: as =>
      match h : m.step s a with
      | none => isTrue (m.along_cons_none h)
      | some t =>
          have : Decidable (m.Along C t as) := decidableAlong C t as
          decidable_of_iff (C s a ∧ m.Along C t as) (m.along_cons_some h).symm

end Machine
