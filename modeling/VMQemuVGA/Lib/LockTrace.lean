import Mathlib.Tactic.Common

/-! # Calls that take one lock

The lock is not recursive: a call that takes it while holding it waits for itself. A
call is described by the order in which it takes and drops the lock. -/

universe u v w

inductive LockEvent where
  | lock
  | unlock
  deriving DecidableEq, Repr

/-- What one call does to the lock, in order. -/
abbrev LockTrace := List LockEvent

namespace LockEvent

/-- What the call holds in the end; `none` if it waits for itself, or drops what it
does not hold. -/
def run : Bool → List LockEvent → Option Bool
  | held, [] => some held
  | false, .lock :: es => run true es
  | true, .unlock :: es => run false es
  | true, .lock :: _ => none
  | false, .unlock :: _ => none

theorem run_append (held : Bool) (es fs : List LockEvent) :
    run held (es ++ fs) = (run held es).bind fun held => run held fs := by
  fun_induction run held es with
  | case1 held => rfl
  | case2 es ih => exact ih
  | case3 es ih => exact ih
  | case4 => rfl
  | case5 => rfl

/-- From a free lock back to a free lock. -/
def Balanced (es : List LockEvent) : Prop := run false es = some false

instance (es : List LockEvent) : Decidable (Balanced es) :=
  inferInstanceAs (Decidable (run false es = some false))

theorem balanced_nil : Balanced [] := rfl

theorem balanced_pair : Balanced [.lock, .unlock] := rfl

theorem Balanced.append {es fs : List LockEvent} (h : Balanced es) (h' : Balanced fs) :
    Balanced (es ++ fs) := by
  rw [Balanced, run_append, h]
  exact h'

theorem Balanced.flatMap {α : Type u} {f : α → List LockEvent} (h : ∀ a, Balanced (f a))
    (l : List α) : Balanced (l.flatMap f) := by
  induction l with
  | nil => exact balanced_nil
  | cons a l ih => exact (h a).append ih

/-- Taking the lock again is the end. -/
theorem not_balanced_nested {es fs : List LockEvent} :
    ¬ Balanced (.lock :: (.lock :: es) ++ fs) := by
  intro h
  cases h

end LockEvent

/-! ## Guarded calls -/

/-- The events of a call, and what it returns. -/
abbrev Visit (ρ : Type u) := List LockEvent × ρ

namespace Visit
variable {ρ : Type u}

/-- The first check that fails, and what is returned then. -/
def failed (checks : List (Bool × ρ)) : Option ρ :=
  (checks.find? fun c => !c.1).map Prod.snd

theorem failed_append (early checks : List (Bool × ρ)) :
    failed (early ++ checks) = (failed early).or (failed checks) := by
  rw [failed, List.find?_append, Option.map_or]
  rfl

@[simp] theorem failed_nil_getD (ret : ρ) : (failed []).getD ret = ret := rfl

@[simp] theorem failed_cons_getD (b : Bool) (r ret : ρ) (checks : List (Bool × ρ)) :
    (failed ((b, r) :: checks)).getD ret = if b = true then (failed checks).getD ret else r := by
  cases b with
  | true => rfl
  | false => rfl

/-- A call that makes some checks, takes the lock, makes more checks, and drops the
lock on every way out. -/
def guarded (early checks : List (Bool × ρ)) (ret : ρ) : Visit ρ :=
  match failed early with
  | some r => ([], r)
  | none =>
      match failed checks with
      | some r => ([.lock, .unlock], r)
      | none => ([.lock, .unlock], ret)

theorem balanced_guarded (early checks : List (Bool × ρ)) (ret : ρ) :
    LockEvent.Balanced (guarded early checks ret).1 := by
  simp only [guarded]
  cases failed early with
  | some r => exact LockEvent.balanced_nil
  | none =>
      cases failed checks with
      | some r => exact LockEvent.balanced_pair
      | none => exact LockEvent.balanced_pair

/-- It takes the lock exactly if no early check fails. -/
theorem guarded_events (early checks : List (Bool × ρ)) (ret : ρ) :
    (guarded early checks ret).1 = if failed early = none then [.lock, .unlock] else [] := by
  simp only [guarded]
  cases failed early with
  | some r => rfl
  | none =>
      cases failed checks with
      | some r => rfl
      | none => rfl

/-- It returns what the first check that fails says. -/
theorem guarded_returns (early checks : List (Bool × ρ)) (ret : ρ) :
    (guarded early checks ret).2 = (failed (early ++ checks)).getD ret := by
  rw [failed_append, guarded]
  cases failed early with
  | some r => rfl
  | none =>
      cases failed checks with
      | some r => rfl
      | none => rfl

end Visit

/-! ## Calls with a body -/

/-- A call on data `σ`: how it takes and drops the lock, the data after it, and what it
returns. -/
structure Traced (σ : Type u) (ρ : Type v) where
  events : List LockEvent
  after : σ
  ret : ρ

namespace Traced
variable {σ : Type u} {ρ : Type v} {τ : Type w}

/-- A call that leaves the lock alone. -/
def plain (s : σ) (r : ρ) : Traced σ ρ := ⟨[], s, r⟩

/-- Take the lock, call, and drop it. -/
def locked (c : Traced σ ρ) : Traced σ ρ :=
  ⟨.lock :: (c.events ++ [.unlock]), c.after, c.ret⟩

/-- One call after the other. -/
def andThen (c : Traced σ ρ) (k : σ → ρ → Traced σ τ) : Traced σ τ :=
  ⟨c.events ++ (k c.after c.ret).events, (k c.after c.ret).after, (k c.after c.ret).ret⟩

/-- The call, whatever it returns. -/
def done (c : Traced σ ρ) : Traced σ Unit := ⟨c.events, c.after, ()⟩

@[simp] theorem plain_after (s : σ) (r : ρ) : (plain s r).after = s := rfl

@[simp] theorem plain_ret (s : σ) (r : ρ) : (plain s r).ret = r := rfl

@[simp] theorem locked_after (c : Traced σ ρ) : c.locked.after = c.after := rfl

@[simp] theorem locked_ret (c : Traced σ ρ) : c.locked.ret = c.ret := rfl

@[simp] theorem done_events (c : Traced σ ρ) : c.done.events = c.events := rfl

@[simp] theorem done_after (c : Traced σ ρ) : c.done.after = c.after := rfl

theorem balanced_plain (s : σ) (r : ρ) : LockEvent.Balanced (plain s r).events :=
  LockEvent.balanced_nil

theorem balanced_locked_plain (s : σ) (r : ρ) : LockEvent.Balanced (plain s r).locked.events :=
  LockEvent.balanced_pair

theorem balanced_andThen {c : Traced σ ρ} {k : σ → ρ → Traced σ τ}
    (h : LockEvent.Balanced c.events) (h' : LockEvent.Balanced (k c.after c.ret).events) :
    LockEvent.Balanced (c.andThen k).events :=
  h.append h'

/-- A call that finds the lock taken by its own caller never comes back. -/
theorem not_balanced_locked_locked (c : Traced σ ρ) (k : σ → ρ → Traced σ τ) :
    ¬ LockEvent.Balanced (c.locked.andThen k).locked.events := by
  intro h
  cases h

end Traced
