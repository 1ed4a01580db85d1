import Mathlib.Algebra.GroupWithZero.Nat
import Mathlib.Tactic.Common

/-! # Rounding to a number of bits

Numbers of more than `p` bits are rounded to `p` leading bits, to the nearest and in the
middle to the even one. This is how a whole number becomes a floating-point number, and how
two of them are multiplied, as long as no exponent gets out of range. -/

namespace Rounding

/-- The multiple of `d` next to `n`, by its count. -/
def roundHalfEven (n d : Nat) : Nat :=
  if 2 * (n % d) < d ∨ 2 * (n % d) = d ∧ n / d % 2 = 0 then n / d else n / d + 1

/-- `n` with `p` significant bits. -/
def significant (p n : Nat) : Nat :=
  roundHalfEven n (2 ^ (n.log2 + 1 - p)) * 2 ^ (n.log2 + 1 - p)

theorem div_le_roundHalfEven (n d : Nat) : n / d ≤ roundHalfEven n d := by
  unfold roundHalfEven
  split
  · exact Nat.le_refl _
  · exact Nat.le_succ _

/-- Between two multiples of 256 the even one is taken. -/
example : significant 24 (2 ^ 31 + 128) = 2 ^ 31 := by decide

/-- A power of two that is not above `n` is not above what `n` is rounded to. -/
theorem two_pow_le_significant {p k n : Nat} (hp : 0 < p) (h : 2 ^ k ≤ n) :
    2 ^ k ≤ significant p n := by
  have hn : n ≠ 0 := Nat.ne_of_gt (Nat.lt_of_lt_of_le (Nat.two_pow_pos k) h)
  have hk : k ≤ n.log2 := (Nat.le_log2 hn).mpr h
  unfold significant
  generalize he : n.log2 + 1 - p = e
  have hlog : e ≤ n.log2 := by omega
  have hfloor : 2 ^ (n.log2 - e) ≤ roundHalfEven n (2 ^ e) := by
    refine Nat.le_trans ?_ (div_le_roundHalfEven n _)
    rw [Nat.le_div_iff_mul_le (Nat.two_pow_pos e), ← Nat.pow_add, Nat.sub_add_cancel hlog]
    exact Nat.log2_self_le hn
  calc 2 ^ k ≤ 2 ^ n.log2 := Nat.pow_le_pow_right (by decide) hk
    _ = 2 ^ (n.log2 - e) * 2 ^ e := by rw [← Nat.pow_add, Nat.sub_add_cancel hlog]
    _ ≤ roundHalfEven n (2 ^ e) * 2 ^ e := Nat.mul_le_mul_right _ hfloor

end Rounding
