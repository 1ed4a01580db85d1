import Mathlib.Tactic.Common

/-! # CRC-32

The remainder of a message, one bit at a time, for a polynomial given with its lowest
coefficient in the top bit. A shift of the remainder is linear in exclusive or, so that
eight of them can be read from a table of 256 words. -/

namespace Crc32
variable (poly : BitVec 32)

/-- One bit of the division. -/
def shift (c : BitVec 32) : BitVec 32 :=
  if c.getLsbD 0 then (c >>> 1) ^^^ poly else c >>> 1

def shifts : Nat → BitVec 32 → BitVec 32
  | 0, c => c
  | n + 1, c => shift poly (shifts n c)

/-- The remainder after one more byte. -/
def byteStep (c : BitVec 32) (b : UInt8) : BitVec 32 :=
  shifts poly 8 (c ^^^ b.toBitVec.setWidth 32)

/-- The CRC of a message: start from ones, complement in the end. -/
def crc32 (bytes : List UInt8) : BitVec 32 :=
  bytes.foldl (byteStep poly) 0xFFFFFFFF#32 ^^^ 0xFFFFFFFF#32

/-- One more byte, by a table. -/
def tableStep (table : List (BitVec 32)) (c : BitVec 32) (b : UInt8) : BitVec 32 :=
  (c >>> 8) ^^^ table.getD ((c ^^^ b.toBitVec.setWidth 32) &&& 0xFF#32).toNat 0#32

/-! ## Linearity -/

theorem shift_xor (a b : BitVec 32) : shift poly (a ^^^ b) = shift poly a ^^^ shift poly b := by
  have hcancel : ∀ x y p : BitVec 32, x ^^^ y = (x ^^^ p) ^^^ (y ^^^ p) := by
    intro x y p
    rw [BitVec.xor_assoc, BitVec.xor_comm y p, ← BitVec.xor_assoc p p y, BitVec.xor_self,
      BitVec.zero_xor]
  unfold shift
  rw [BitVec.getLsbD_xor, BitVec.ushiftRight_xor_distrib]
  cases ha : a.getLsbD 0 with
  | false =>
      cases hb : b.getLsbD 0 with
      | false => simp
      | true => simp [BitVec.xor_assoc]
  | true =>
      cases hb : b.getLsbD 0 with
      | false => simp [BitVec.xor_assoc, BitVec.xor_comm poly]
      | true => simpa using hcancel (a >>> 1) (b >>> 1) poly

theorem shifts_xor (n : Nat) (a b : BitVec 32) :
    shifts poly n (a ^^^ b) = shifts poly n a ^^^ shifts poly n b := by
  induction n with
  | zero => rfl
  | succ n ih => rw [shifts, ih, shift_xor, shifts, shifts]

/-- As long as the bits that fall out are clear, nothing is added. -/
theorem shifts_of_clear {c : BitVec 32} {n : Nat} (h : ∀ i < n, c.getLsbD i = false) :
    shifts poly n c = c >>> n := by
  induction n with
  | zero => simp [shifts]
  | succ n ih =>
      have hlow : (c >>> n).getLsbD 0 = false := by
        simpa using h n (Nat.lt_succ_self n)
      rw [shifts, ih fun i hi => h i (Nat.lt_succ_of_lt hi), shift, hlow, BitVec.shiftRight_add]
      simp

/-! ## By bytes -/

theorem getLsbD_255 (i : Nat) : (0xFF#32).getLsbD i = decide (i < 8) := by
  rw [BitVec.getLsbD_ofNat, show 0xFF = 2 ^ 8 - 1 from rfl, Nat.testBit_two_pow_sub_one]
  by_cases hi : i < 8
  · have h32 : i < 32 := Nat.lt_trans hi (by decide)
    simp [hi, h32]
  · simp [hi]

/-- The low byte and the rest. -/
theorem eq_low_xor_high (c : BitVec 32) : c = (c &&& 0xFF#32) ^^^ (c &&& ~~~0xFF#32) := by
  apply BitVec.eq_of_getLsbD_eq
  intro i hi
  simp only [BitVec.getLsbD_xor, BitVec.getLsbD_and, BitVec.getLsbD_not, hi, decide_true,
    Bool.true_and]
  cases c.getLsbD i <;> cases (0xFF#32).getLsbD i <;> rfl

/-- Eight shifts come from the low byte; the others only move down. -/
theorem shifts_eight (c : BitVec 32) :
    shifts poly 8 c = (c >>> 8) ^^^ shifts poly 8 (c &&& 0xFF#32) := by
  have hclear : ∀ i < 8, (c &&& ~~~0xFF#32).getLsbD i = false := by
    intro i hi
    have h32 : i < 32 := Nat.lt_trans hi (by decide)
    rw [BitVec.getLsbD_and, BitVec.getLsbD_not, getLsbD_255]
    simp [hi, h32]
  have hhigh : (c &&& ~~~0xFF#32) >>> 8 = c >>> 8 := by
    apply BitVec.eq_of_getLsbD_eq
    intro i _
    rw [BitVec.getLsbD_ushiftRight, BitVec.getLsbD_ushiftRight, BitVec.getLsbD_and,
      BitVec.getLsbD_not, getLsbD_255]
    by_cases h32 : 8 + i < 32
    · simp [h32]
    · simp [h32, BitVec.getLsbD_of_ge c (8 + i) (Nat.le_of_not_lt h32)]
  conv_lhs => rw [eq_low_xor_high c]
  rw [shifts_xor, shifts_of_clear poly hclear, hhigh, BitVec.xor_comm]

theorem byte_shiftRight (b : UInt8) : (b.toBitVec.setWidth 32) >>> 8 = 0#32 := by
  apply BitVec.eq_of_toNat_eq
  have hb : b.toBitVec.toNat < 2 ^ 8 := b.toBitVec.isLt
  rw [BitVec.toNat_ushiftRight, BitVec.toNat_setWidth, Nat.shiftRight_eq_div_pow]
  rw [Nat.mod_eq_of_lt (Nat.lt_trans hb (by decide)), Nat.div_eq_of_lt hb]
  rfl

theorem and_255_lt (c : BitVec 32) : (c &&& 0xFF#32).toNat < 256 := by
  rw [BitVec.toNat_and]
  exact Nat.lt_of_le_of_lt Nat.and_le_right (by decide)

/-- **A table of the bytes' remainders does for the bits.** -/
theorem tableStep_eq {table : List (BitVec 32)}
    (htable : ∀ i < 256, table.getD i 0#32 = shifts poly 8 (BitVec.ofNat 32 i)) :
    tableStep table = byteStep poly := by
  funext c b
  have hentry := htable _ (and_255_lt (c ^^^ b.toBitVec.setWidth 32))
  rw [BitVec.ofNat_toNat, BitVec.setWidth_eq] at hentry
  rw [tableStep, hentry, byteStep, shifts_eight poly (c ^^^ b.toBitVec.setWidth 32),
    BitVec.ushiftRight_xor_distrib, byte_shiftRight, BitVec.xor_zero]

end Crc32
