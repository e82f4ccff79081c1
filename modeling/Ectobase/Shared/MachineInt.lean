import Mathlib.Algebra.Group.Int.Defs
import Mathlib.Algebra.Group.Nat.Defs
import Mathlib.Data.Int.Basic

/-! Signed 32-bit arithmetic where the exact result fits. -/

namespace Ectobase.Shared

lemma bmod_of_fits {x : Int} (low : -2 ^ 31 <= x) (high : x < 2 ^ 31) : x.bmod (2 ^ 32) = x := by
  apply Int.bmod_eq_of_le <;> omega

variable {a b : Int32}

lemma toInt_add_of_fits (low : -2 ^ 31 <= a.toInt + b.toInt)
  (high : a.toInt + b.toInt < 2 ^ 31) : (a + b).toInt = a.toInt + b.toInt := by
  rw [Int32.toInt_add, bmod_of_fits low high]

lemma toInt_sub_of_fits (low : -2 ^ 31 <= a.toInt - b.toInt)
  (high : a.toInt - b.toInt < 2 ^ 31) : (a - b).toInt = a.toInt - b.toInt := by
  rw [Int32.toInt_sub, bmod_of_fits low high]

lemma toInt_mul_of_fits (low : -2 ^ 31 <= a.toInt * b.toInt)
  (high : a.toInt * b.toInt < 2 ^ 31) : (a * b).toInt = a.toInt * b.toInt := by
  rw [Int32.toInt_mul, bmod_of_fits low high]

lemma toInt_div_of_pos (positive : 0 < b.toInt) : (a / b).toInt = a.toInt.tdiv b.toInt := by
  rw [Int32.toInt_div]
  have low := a.le_toInt
  have high := a.toInt_lt
  have shrinks := Int.natAbs_tdiv_le_natAbs a.toInt b.toInt
  by_cases nonneg : 0 <= a.toInt
  · have sign : 0 <= a.toInt.tdiv b.toInt := Int.tdiv_nonneg nonneg (Int.le_of_lt positive)
    apply bmod_of_fits <;> omega
  · have sign : 0 <= (-a.toInt).tdiv b.toInt := Int.tdiv_nonneg (by omega) (Int.le_of_lt positive)
    rw [Int.neg_tdiv] at sign
    apply bmod_of_fits <;> omega

lemma tdiv_of_within {a b : Int} (low : -b < a) (high : a < b) : a.tdiv b = 0 := by
  by_cases nonneg : 0 <= a
  · exact Int.tdiv_eq_zero_of_lt nonneg high
  · have flipped := Int.tdiv_eq_zero_of_lt (show 0 <= -a by omega) (show -a < b by omega)
    rw [Int.neg_tdiv] at flipped
    omega

lemma tmod_of_within {a b : Int} (low : -b < a) (high : a < b) : a.tmod b = a := by
  rw [Int.tmod_def, tdiv_of_within low high, Int.mul_zero, Int.sub_zero]

lemma within_of_tdiv_nonneg {a b : Int} (positive : 0 < b) (negative : a < 0) (quotient : 0 <= a.tdiv b) : -b < a := by
  by_contra far
  have one : 1 <= (-a).tdiv b := by
    rw [Int.tdiv_eq_ediv_of_nonneg (by omega)]
    exact Int.le_ediv_of_mul_le positive (by omega)
  rw [Int.neg_tdiv] at one
  omega

lemma toNat_toUInt32 (a : Int32) : (a.toUInt32.toNat : Int) = if 0 <= a.toInt then a.toInt else a.toInt + 2 ^ 32 := by
  have word : a.toInt = (a.toUInt32.toNat : Int).bmod (2 ^ 32) := BitVec.toInt_eq_toNat_bmod _
  have bound := a.toUInt32.toNat_lt
  rw [Int.bmod_def] at word
  split at word <;> split <;> omega

end Ectobase.Shared
