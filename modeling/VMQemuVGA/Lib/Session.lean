import Mathlib.Tactic.Common

/-! # Programs that ask

A program that calls on what it cannot see: every call is answered from outside, and the
program goes on with the answer. A monitor watches the calls and their answers; what it
has seen in the end is told, for all answers at once, by a weakest precondition. -/

universe u v w

/-- Calls of type `κ` with answers of type `ρ`. -/
inductive Session (κ : Type u) (ρ : Type v) (α : Type w) where
  | done (a : α)
  | call (c : κ) (next : ρ → Session κ ρ α)

namespace Session
variable {κ : Type u} {ρ : Type v} {σ : Type*}

protected def bind {α β : Type w} : Session κ ρ α → (α → Session κ ρ β) → Session κ ρ β
  | .done a, f => f a
  | .call c next, f => .call c fun r => (next r).bind f

instance : Monad (Session κ ρ) where
  pure := .done
  bind := Session.bind

/-- A call whose answer matters. -/
def ask (c : κ) : Session κ ρ ρ := .call c .done

/-- A call whose answer is dropped. -/
def tell (c : κ) : Session κ ρ PUnit := .call c fun _ => .done ⟨⟩

/-- `for (a : as) body(a);` -/
def forEach {α : Type w} (as : List α) (body : α → Session κ ρ PUnit) : Session κ ρ PUnit :=
  match as with
  | [] => pure ⟨⟩
  | a :: as => do
      body a
      forEach as body

/-- The calls with their answers, and the result. -/
def run {α : Type w} : Session κ ρ α → (Nat → ρ) → List (κ × ρ) × α
  | .done a, _ => ([], a)
  | .call c next, answers =>
      let (calls, a) := (next (answers 0)).run fun n => answers (n + 1)
      ((c, answers 0) :: calls, a)

/-! ## Monitors -/

variable (see : σ → κ → ρ → σ)

/-- Whatever the answers are, `post` holds of the result and of what is seen. -/
def wp {α : Type w} : Session κ ρ α → (α → σ → Prop) → σ → Prop
  | .done a, post, s => post a s
  | .call c next, post, s => ∀ r, wp (next r) post (see s c r)

variable {see} {α β : Type w} {s : σ} {p : Session κ ρ α} {post post' : α → σ → Prop}

/-- What the monitor has seen of the calls of a run. -/
theorem wp.run (h : wp see p post s) (answers : Nat → ρ) :
    post (p.run answers).2 ((p.run answers).1.foldl (fun s e => see s e.1 e.2) s) := by
  induction p generalizing s answers with
  | done a => exact h
  | call c next ih => exact ih (answers 0) (h (answers 0)) fun n => answers (n + 1)

theorem wp.mono (h : wp see p post s) (himp : ∀ a t, post a t → post' a t) :
    wp see p post' s := by
  induction p generalizing s with
  | done a => exact himp a s h
  | call c next ih => exact fun r => ih r (h r)

@[simp] theorem wp_pure {a : α} : wp see (pure a : Session κ ρ α) post s ↔ post a s := Iff.rfl

@[simp] theorem wp_bind {f : α → Session κ ρ β} {post : β → σ → Prop} :
    wp see (p >>= f) post s ↔ wp see p (fun a t => wp see (f a) post t) s := by
  induction p generalizing s with
  | done a => exact Iff.rfl
  | call c next ih => exact forall_congr' fun r => ih r

/-- A call of a program, by what is known of it. -/
theorem wp.andThen {f : α → Session κ ρ β} {post' : β → σ → Prop} (h : wp see p post s)
    (hf : ∀ a t, post a t → wp see (f a) post' t) : wp see (p >>= f) post' s :=
  wp_bind.mpr (h.mono hf)

theorem wp_ask {c : κ} {post : ρ → σ → Prop} :
    wp see (ask c) post s ↔ ∀ r, post r (see s c r) := Iff.rfl

theorem wp_tell {c : κ} {post : PUnit → σ → Prop} :
    wp see (tell c) post s ↔ ∀ r, post ⟨⟩ (see s c r) := Iff.rfl

@[simp] theorem wp_ite {c : Prop} [Decidable c] {q : Session κ ρ α} :
    wp see (if c then p else q) post s ↔ if c then wp see p post s else wp see q post s := by
  by_cases hc : c
  · rw [if_pos hc, if_pos hc]
  · rw [if_neg hc, if_neg hc]

/-- A loop, by what holds before each round of the rounds that are left. -/
theorem wp_forEach {ι : Type w} {body : ι → Session κ ρ PUnit} {inv : List ι → σ → Prop}
    (hstep : ∀ i is t, inv (i :: is) t → wp see (body i) (fun _ t => inv is t) t)
    {is : List ι} (h : inv is s) : wp see (forEach is body) (fun _ t => inv [] t) s := by
  induction is generalizing s with
  | nil => exact h
  | cons i is ih => exact (hstep i is s h).andThen fun _ t ht => ih ht

/-! ## Programs that leave a monitor as it was -/

variable (see) in
def Keeps (p : Session κ ρ α) : Prop := ∀ s, wp see p (fun _ t => t = s) s

theorem Keeps.wp (h : Keeps see p) (hpost : ∀ a, post a s) : wp see p post s := by
  refine (h s).mono fun a t ht => ?_
  rw [ht]
  exact hpost a

theorem Keeps.andThen {f : α → Session κ ρ β} {post : β → σ → Prop} (h : Keeps see p)
    (hf : ∀ a, Session.wp see (f a) post s) : Session.wp see (p >>= f) post s :=
  wp_bind.mpr (h.wp hf)

theorem keeps_pure (a : α) : Keeps see (pure a : Session κ ρ α) := fun _ => rfl

theorem Keeps.bind {f : α → Session κ ρ β} (h : Keeps see p) (hf : ∀ a, Keeps see (f a)) :
    Keeps see (p >>= f) :=
  fun s => h.andThen fun a => hf a s

theorem Keeps.forEach {ι : Type w} {body : ι → Session κ ρ PUnit} (h : ∀ i, Keeps see (body i))
    (is : List ι) : Keeps see (forEach is body) := by
  intro s
  refine @wp_forEach _ _ _ _ s _ _ (fun _ t => t = s) (fun i is t ht => ?_) is rfl
  exact (h i).wp fun _ => ht

end Session
