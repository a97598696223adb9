import Mathlib.Tactic.IntervalCases

/-!
# The sign bit of a word

A 32-bit number that carries a flag in its sign bit.
-/

namespace CheetahDex.Lib

variable (x : Int32)

theorem lt_zero_iff_msb : x < 0 ↔ x.toBitVec.msb = true := by
  rw [Int32.lt_iff_toInt_lt, Int32.toInt_zero, BitVec.msb_eq_toInt, decide_eq_true_eq]
  rfl

/-- An arithmetic shift by all but one bit leaves the sign. -/
theorem shiftRight_ne_zero : x >>> (31 : Int32) ≠ 0 ↔ x < 0 := by
  have hbt : (x >>> (31 : Int32)).toBitVec = x.toBitVec.sshiftRight 31 := by
    simp [Int32.toBitVec_shiftRight]
  have hint : (x >>> (31 : Int32)).toInt = x.toInt / 2 ^ 31 := by
    rw [← Int32.toInt_toBitVec, hbt, BitVec.toInt_sshiftRight, Int.shiftRight_eq_div_pow]
    rfl
  have hhg := Int32.toInt_lt x
  rw [← Int32.toInt_inj.ne, hint, Int32.lt_iff_toInt_lt, Int32.toInt_zero]
  omega

theorem and_mask_nonneg : 0 ≤ x &&& 0x7fffffff := by
  rw [← Int32.not_lt, lt_zero_iff_msb]
  simp [BitVec.msb_eq_getLsbD_last]

theorem or_sign_lt_zero : x ||| (1 : Int32) <<< (31 : Int32) < 0 := by
  rw [lt_zero_iff_msb]
  simp [BitVec.msb_eq_getLsbD_last]

theorem and_or_sign {x : Int32} (h : x < 0) :
    x &&& 0x7fffffff ||| (1 : Int32) <<< (31 : Int32) = x := by
  rw [lt_zero_iff_msb, BitVec.msb_eq_getLsbD_last] at h
  apply Int32.toBitVec_inj.mp
  apply BitVec.eq_of_getLsbD_eq
  intro i hi
  interval_cases i <;> simp_all

theorem or_sign_and {x : Int32} (h : 0 ≤ x) :
    (x ||| (1 : Int32) <<< (31 : Int32)) &&& 0x7fffffff = x := by
  rw [← Int32.not_lt, lt_zero_iff_msb, BitVec.msb_eq_getLsbD_last] at h
  apply Int32.toBitVec_inj.mp
  apply BitVec.eq_of_getLsbD_eq
  intro i hi
  interval_cases i <;> simp_all

end CheetahDex.Lib
