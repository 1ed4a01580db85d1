import Mathlib.Algebra.Order.Field.Rat
import Mathlib.Tactic.Linarith

/-! # Doubles

A double is a number, one of two infinities, or not a number. Numbers are exact here: what is
kept of the arithmetic is how the infinities and what is not a number go through a difference
and a comparison. Whatever is compared with the latter, the answer is no. -/

inductive Double where
  | finite (q : ℚ)
  | infinite (negative : Bool)
  | nan
  deriving DecidableEq

namespace Double

/-- What the 64 bits stand for. -/
def ofBits (bits : Nat) : Double :=
  let exponent : Nat := bits / 2 ^ 52 % 2 ^ 11
  let fraction : Nat := bits % 2 ^ 52
  let negative : Bool := decide (bits / 2 ^ 63 % 2 = 1)
  if exponent = 2 ^ 11 - 1 then if fraction = 0 then .infinite negative else .nan
  else
    let magnitude : ℚ :=
      if exponent = 0 then (fraction : ℚ) / 2 ^ 1074
      else (((2 ^ 52 + fraction) * 2 ^ exponent : Nat) : ℚ) / 2 ^ 1075
    .finite (if negative then -magnitude else magnitude)

def sub : Double → Double → Double
  | .finite p, .finite q => .finite (p - q)
  | .finite _, .infinite negative => .infinite !negative
  | .infinite negative, .finite _ => .infinite negative
  | .infinite negative, .infinite negative' =>
      if negative = negative' then .nan else .infinite negative
  | .nan, _ | _, .nan => .nan

/-- `x <= y`. -/
def le : Double → Double → Bool
  | .finite p, .finite q => decide (p ≤ q)
  | .finite _, .infinite negative => !negative
  | .infinite negative, .finite _ => negative
  | .infinite negative, .infinite negative' => negative || !negative'
  | .nan, _ | _, .nan => false

/-- `x < y`. -/
def lt (x y : Double) : Bool := x.le y && !y.le x

@[simp] theorem sub_finite (p q : ℚ) : (finite p).sub (.finite q) = .finite (p - q) := rfl

@[simp] theorem le_finite (p q : ℚ) : (finite p).le (.finite q) = decide (p ≤ q) := rfl

/-! ## Sequences whose differences are not small -/

/-- `y - x <= eps` does not hold. -/
def Climbs (eps : ℚ) (x y : Double) : Prop := (y.sub x).le (.finite eps) = false

variable {eps p q : ℚ} {x y : Double}

theorem climbs_finite_iff : Climbs eps (.finite p) (.finite q) ↔ eps < q - p := by
  rw [Climbs, sub_finite, le_finite, decide_eq_false_iff_not, not_le]

/-- From a number a difference that is not small leads up, or out of the numbers. -/
theorem Climbs.cases_finite (h : Climbs eps (.finite p) y) :
    (∃ q, y = .finite q) ∨ y = .infinite false ∨ y = .nan := by
  cases y with
  | finite q => exact .inl ⟨q, rfl⟩
  | infinite negative =>
      cases negative with
      | false => exact .inr (.inl rfl)
      | true => cases h
  | nan => exact .inr (.inr rfl)

/-- From infinity it leads nowhere else. -/
theorem Climbs.cases_infinite (h : Climbs eps (.infinite false) y) :
    y = .infinite false ∨ y = .nan := by
  cases y with
  | finite q => cases h
  | infinite negative =>
      cases negative with
      | false => exact .inl rfl
      | true => cases h
  | nan => exact .inr rfl

variable {time : Nat → Double} {n : Nat}

/-- Once such a sequence has reached infinity, it stays there. -/
theorem infinite_of_climbs {i : Nat} (hclimbs : ∀ i < n, Climbs eps (time i) (time (i + 1)))
    (hnan : ∀ i ≤ n, time i ≠ .nan) (hi : i ≤ n) (hinfinite : time i = .infinite false) :
    time n = .infinite false := by
  induction n, hi using Nat.le_induction with
  | base => exact hinfinite
  | succ n hi ih =>
      have hn : time n = .infinite false :=
        ih (fun j hj => hclimbs j (by omega)) fun j hj => hnan j (by omega)
      have hlast := hclimbs n (Nat.lt_succ_self n)
      rw [hn] at hlast
      exact hlast.cases_infinite.resolve_right (hnan _ (Nat.le_refl _))

/-- **A sequence that climbs from one number to another** goes through numbers only, if
everything on the way is a number or an infinity. -/
theorem finite_of_climbs (hclimbs : ∀ i < n, Climbs eps (time i) (time (i + 1)))
    (hfirst : time 0 = .finite p) (hlast : time n = .finite q) (hnan : ∀ i ≤ n, time i ≠ .nan) :
    ∀ i ≤ n, ∃ r, time i = .finite r := by
  intro i hi
  induction i with
  | zero => exact ⟨p, hfirst⟩
  | succ i ih =>
      obtain ⟨r, hr⟩ := ih (by omega)
      have hstep := hclimbs i hi
      rw [hr] at hstep
      rcases hstep.cases_finite with hfinite | hinfinite | hnone
      · exact hfinite
      · have hstays := infinite_of_climbs hclimbs hnan hi hinfinite
        rw [hlast] at hstays
        cases hstays
      · exact absurd hnone (hnan _ hi)

/-- A sequence of numbers that starts at or below a value and gets up to it has a step
across. -/
theorem exists_step_across (hpos : 0 < n) (hnumbers : ∀ i ≤ n, ∃ r, time i = .finite r)
    (h₀ : (time 0).le (.finite p) = true) (h₁ : (finite p).le (time n) = true) :
    ∃ i < n, (time i).le (.finite p) = true ∧ (finite p).le (time (i + 1)) = true := by
  induction n with
  | zero => exact absurd hpos (Nat.lt_irrefl 0)
  | succ n ih =>
      obtain ⟨r, hr⟩ := hnumbers n (Nat.le_succ n)
      rcases le_total p r with hbefore | hafter
      · have hn : (finite p).le (time n) = true := by
          rw [hr]
          exact decide_eq_true hbefore
        rcases Nat.eq_zero_or_pos n with rfl | hpos
        · exact ⟨0, Nat.zero_lt_one, h₀, h₁⟩
        · obtain ⟨i, hi, hacross⟩ := ih hpos (fun i hi => hnumbers i (by omega)) hn
          exact ⟨i, Nat.lt_succ_of_lt hi, hacross⟩
      · refine ⟨n, Nat.lt_succ_self n, ?_, h₁⟩
        rw [hr]
        exact decide_eq_true hafter

end Double
