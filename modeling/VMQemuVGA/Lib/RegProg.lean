import Mathlib.Algebra.GroupWithZero.Nat
import Mathlib.Tactic.Common

/-! # Programs over registers

A driver's program reads and writes the registers of a device. It is a tree: what it does
next may depend on what it has read. The device may answer a read as it likes, by all that
has gone before.

The accesses of a run are its trace. What a trace comes to, in some state that it is
replayed on, and whether each access is permitted in the state it is made in, is shown by
the rules below for one access each. -/

universe u v w

/-- An access to a register, with the value that is written or answered. -/
inductive RegAccess (ρ : Type u) where
  | write (r : ρ) (v : Nat)
  | read (r : ρ) (v : Nat)
  deriving DecidableEq, Repr

/-- A device answers by the accesses so far. -/
abbrev RegDevice (ρ : Type u) := List (RegAccess ρ) → ρ → Nat

inductive RegProg (ρ : Type u) (α : Type v) where
  | done (a : α)
  | put (r : ρ) (v : Nat) (next : RegProg ρ α)
  | get (r : ρ) (next : Nat → RegProg ρ α)

namespace RegProg
variable {ρ : Type u} {α β : Type v}

def bind : RegProg ρ α → (α → RegProg ρ β) → RegProg ρ β
  | .done a, k => k a
  | .put r v p, k => .put r v (p.bind k)
  | .get r p, k => .get r fun v => (p v).bind k

instance : Monad (RegProg ρ) where
  pure := .done
  bind := bind

def write (r : ρ) (v : Nat) : RegProg ρ PUnit := .put r v (.done ⟨⟩)

def read (r : ρ) : RegProg ρ Nat := .get r .done

/-- The result and the accesses made, behind those of `past`. A register holds as many bits
as `width` says. -/
def exec (width : ρ → Nat) (dev : RegDevice ρ) :
    RegProg ρ α → List (RegAccess ρ) → α × List (RegAccess ρ)
  | .done a, _ => (a, [])
  | .put r v p, past =>
      let x := .write r (v % 2 ^ width r)
      let (a, tr) := exec width dev p (past ++ [x])
      (a, x :: tr)
  | .get r p, past =>
      let v := dev past r % 2 ^ width r
      let (a, tr) := exec width dev (p v) (past ++ [.read r v])
      (a, .read r v :: tr)

variable {width : ρ → Nat} {dev : RegDevice ρ}

theorem exec_bind (p : RegProg ρ α) (k : α → RegProg ρ β) (past : List (RegAccess ρ)) :
    (p >>= k).exec width dev past =
      let first := p.exec width dev past
      let rest := (k first.1).exec width dev (past ++ first.2)
      (rest.1, first.2 ++ rest.2) := by
  show (p.bind k).exec width dev past = _
  induction p generalizing past with
  | done a => simp [bind, exec]
  | put r v p ih => simp [bind, exec, ih, List.append_assoc]
  | get r p ih => simp [bind, exec, ih, List.append_assoc]

end RegProg

/-! ## Replaying a trace -/

/-- What the registers of a device come to with each access. -/
structure RegFile (σ : Type w) (ρ : Type u) where
  width : ρ → Nat
  next : σ → RegAccess ρ → σ

namespace RegFile
variable {σ : Type w} {ρ : Type u} {α β : Type v} (F : RegFile σ ρ)

def replay (s : σ) (tr : List (RegAccess ρ)) : σ := tr.foldl F.next s

/-- Every access is made in a state that permits it. -/
def Obeys (C : σ → RegAccess ρ → Prop) : σ → List (RegAccess ρ) → Prop
  | _, [] => True
  | s, x :: tr => C s x ∧ Obeys C (F.next s x) tr

variable {F} {C : σ → RegAccess ρ → Prop} {s : σ} {x : RegAccess ρ} {tr us : List (RegAccess ρ)}

@[simp] theorem replay_nil : F.replay s [] = s := rfl

@[simp] theorem replay_cons : F.replay s (x :: tr) = F.replay (F.next s x) tr := rfl

theorem replay_append : F.replay s (tr ++ us) = F.replay (F.replay s tr) us := List.foldl_append ..

@[simp] theorem obeys_nil : F.Obeys C s [] := trivial

@[simp] theorem obeys_cons : F.Obeys C s (x :: tr) ↔ C s x ∧ F.Obeys C (F.next s x) tr := Iff.rfl

theorem obeys_append :
    F.Obeys C s (tr ++ us) ↔ F.Obeys C s tr ∧ F.Obeys C (F.replay s tr) us := by
  induction tr generalizing s with
  | nil => simp
  | cons x tr ih => simp [ih, and_assoc]

/-! ## Pre- and postconditions -/

/-- Whatever the device answers, each access of the program meets `C`, and result and
state meet `Q` in the end. -/
def wp (F : RegFile σ ρ) (C : σ → RegAccess ρ → Prop) :
    RegProg ρ α → (α → σ → Prop) → σ → Prop
  | .done a, Q, s => Q a s
  | .put r v p, Q, s =>
      let x := .write r (v % 2 ^ F.width r)
      C s x ∧ wp F C p Q (F.next s x)
  | .get r p, Q, s =>
      ∀ v < 2 ^ F.width r, C s (.read r v) ∧ wp F C (p v) Q (F.next s (.read r v))

variable {p : RegProg ρ α} {k : α → RegProg ρ β} {Q Q' : α → σ → Prop} {a : α} {r : ρ} {v : Nat}

@[simp] theorem wp_pure : F.wp C (pure a) Q s ↔ Q a s := Iff.rfl

@[simp] theorem wp_bind {Q : β → σ → Prop} :
    F.wp C (p >>= k) Q s ↔ F.wp C p (fun a s => F.wp C (k a) Q s) s := by
  show F.wp C (p.bind k) Q s ↔ _
  induction p generalizing s with
  | done a => rfl
  | put r v p ih => simp only [RegProg.bind, wp, ih]
  | get r p ih => simp only [RegProg.bind, wp, ih]

@[simp] theorem wp_write {Q : PUnit → σ → Prop} :
    F.wp C (.write r v) Q s ↔
      C s (.write r (v % 2 ^ F.width r)) ∧ Q ⟨⟩ (F.next s (.write r (v % 2 ^ F.width r))) := Iff.rfl

@[simp] theorem wp_read {Q : Nat → σ → Prop} :
    F.wp C (.read r) Q s ↔
      ∀ v < 2 ^ F.width r, C s (.read r v) ∧ Q v (F.next s (.read r v)) := Iff.rfl

theorem wp_mono (hQ : ∀ a s, Q a s → Q' a s) (h : F.wp C p Q s) : F.wp C p Q' s := by
  induction p generalizing s with
  | done a => exact hQ a s h
  | put r v p ih => exact ⟨h.1, ih h.2⟩
  | get r p ih => exact fun v hv => ⟨(h v hv).1, ih v (h v hv).2⟩

/-- **The rules are sound**, for every device and every past. -/
theorem wp_exec (h : F.wp C p Q s) (dev : RegDevice ρ) (past : List (RegAccess ρ)) :
    F.Obeys C s (p.exec F.width dev past).2 ∧
      Q (p.exec F.width dev past).1 (F.replay s (p.exec F.width dev past).2) := by
  induction p generalizing s past with
  | done a => exact ⟨trivial, h⟩
  | put r v p ih =>
      obtain ⟨hC, hp⟩ := h
      obtain ⟨hobeys, hQ⟩ := ih hp (past ++ [.write r (v % 2 ^ F.width r)])
      exact ⟨⟨hC, hobeys⟩, hQ⟩
  | get r p ih =>
      obtain ⟨hC, hp⟩ := h _ (Nat.mod_lt (dev past r) (Nat.two_pow_pos _))
      obtain ⟨hobeys, hQ⟩ := ih _ hp (past ++ [.read r (dev past r % 2 ^ F.width r)])
      exact ⟨⟨hC, hobeys⟩, hQ⟩

end RegFile
