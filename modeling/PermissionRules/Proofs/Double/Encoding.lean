import PermissionRules.Double.Basic
import Mathlib.Tactic.Ring

/-! The encoding of magnitudes. Codes and units are in the same order, the code below a whole number
of units is exact on the units of a code, and rounding a quotient depends on its value only. -/
namespace PermissionRules.Double

theorem fractionCount_eq : fractionCount = 2 ^ 52 :=
  rfl

theorem oneUnits_eq : oneUnits = 2 ^ unitPlaces := by
  unfold oneUnits
  generalize unitPlaces = places
  exact Nat.pow_eq

theorem floorCode_eq (magnitude : Nat) : floorCode magnitude =
    (magnitude.log2 - 52) * fractionCount + magnitude / 2 ^ (magnitude.log2 - 52) :=
  rfl

theorem units_of_lt {code : Nat} (small : code < fractionCount) : units code = code :=
  if_pos small

/-- The units of a code with an exponent, by its exponent and its fraction. -/
theorem units_normal {exponent fraction : Nat} (bound : fraction < fractionCount) :
    units ((exponent + 1) * fractionCount + fraction) =
      (fractionCount + fraction) * 2 ^ exponent := by
  have large : ¬ (exponent + 1) * fractionCount + fraction < fractionCount := by
    rw [Nat.add_mul]
    omega
  have quotient : ((exponent + 1) * fractionCount + fraction) / fractionCount = exponent + 1 := by
    rw [Nat.mul_comm, Nat.mul_add_div (by decide), Nat.div_eq_of_lt bound, Nat.add_zero]
  have remainder : ((exponent + 1) * fractionCount + fraction) % fractionCount = fraction := by
    rw [Nat.mul_comm, Nat.mul_add_mod, Nat.mod_eq_of_lt bound]
  rw [units, if_neg large, quotient, remainder, Nat.add_sub_cancel, Nat.pow_eq]

/-- Every code is a fraction alone or has an exponent. -/
theorem code_cases (code : Nat) : code < fractionCount ∨
    ∃ exponent fraction, fraction < fractionCount ∧
      code = (exponent + 1) * fractionCount + fraction := by
  by_cases small : code < fractionCount
  · exact .inl small
  · refine .inr ⟨code / fractionCount - 1, code % fractionCount, Nat.mod_lt _ (by decide), ?_⟩
    have one : 1 ≤ code / fractionCount :=
      (Nat.one_le_div_iff (by decide)).mpr (Nat.not_lt.mp small)
    rw [Nat.sub_add_cancel one, Nat.mul_comm]
    exact (Nat.div_add_mod code fractionCount).symm

theorem units_lt_succ (code : Nat) : units code < units (code + 1) := by
  rcases code_cases code with small | ⟨exponent, fraction, bound, rfl⟩
  · rw [units_of_lt small]
    rcases (show code + 1 ≤ fractionCount from small).lt_or_eq with next | next
    · rw [units_of_lt next]
      exact Nat.lt_succ_self code
    · have first := @units_normal 0 0 (by decide)
      rw [Nat.zero_add, Nat.one_mul, Nat.add_zero, Nat.pow_zero, Nat.mul_one] at first
      rw [next, first]
      exact small
  · rw [units_normal bound]
    have power : 0 < 2 ^ exponent := Nat.pow_pos (by decide)
    rcases (show fraction + 1 ≤ fractionCount from bound).lt_or_eq with next | next
    · rw [Nat.add_assoc, units_normal next]
      exact Nat.mul_lt_mul_of_pos_right (by omega) power
    · have carry : (exponent + 1) * fractionCount + fraction + 1 =
          (exponent + 1 + 1) * fractionCount + 0 := by
        rw [Nat.add_assoc, next, Nat.add_mul (exponent + 1), Nat.one_mul]
        exact (Nat.add_zero _).symm
      rw [carry, units_normal (by decide), Nat.pow_succ', ← Nat.mul_assoc]
      exact Nat.mul_lt_mul_of_pos_right (by omega) power

theorem floorCode_units (code : Nat) : floorCode (units code) = code := by
  rcases code_cases code with small | ⟨exponent, fraction, bound, rfl⟩
  · rw [units_of_lt small]
    have shift : code.log2 - 52 = 0 := by
      by_cases zero : code = 0
      · simp [zero]
      · have := (Nat.log2_lt zero).mpr (small : code < 2 ^ 52)
        omega
    simp only [floorCode_eq, shift, Nat.zero_mul, Nat.zero_add, Nat.pow_zero, Nat.div_one]
  · rw [units_normal bound]
    have positive : (fractionCount + fraction) * 2 ^ exponent ≠ 0 :=
      Nat.mul_ne_zero (by simp [fractionCount]) (Nat.pow_pos (by decide)).ne'
    have size : ((fractionCount + fraction) * 2 ^ exponent).log2 = 52 + exponent := by
      refine (Nat.log2_eq_iff positive).mpr ⟨?_, ?_⟩
      · rw [Nat.pow_add]
        exact Nat.mul_le_mul_right _ (Nat.le_add_right _ _)
      · have double : 2 ^ (52 + exponent + 1) = (fractionCount + fractionCount) * 2 ^ exponent := by
          rw [fractionCount_eq, ← Nat.two_mul]
          ring
        rw [double]
        exact Nat.mul_lt_mul_of_pos_right (by omega) (Nat.pow_pos (by decide))
    simp only [floorCode_eq, size, Nat.add_sub_cancel_left,
      Nat.mul_div_cancel _ (Nat.pow_pos (by decide : 0 < 2))]
    rw [Nat.add_mul, Nat.one_mul, Nat.add_assoc]

/-- Magnitudes from the double beyond the greatest finite one on are at least as large as infinity. -/
theorem infinityCode_le_floorCode {magnitude power : Nat} (large : 2 ^ power ≤ magnitude)
    (bound : 2098 ≤ power) : infinityCode ≤ floorCode magnitude := by
  have positive : magnitude ≠ 0 := (Nat.lt_of_lt_of_le (Nat.two_pow_pos power) large).ne'
  have size : 2098 ≤ magnitude.log2 := bound.trans ((Nat.le_log2 positive).mpr large)
  have leading : fractionCount ≤ magnitude / 2 ^ (magnitude.log2 - 52) := by
    rw [Nat.le_div_iff_mul_le (Nat.pow_pos (by decide)), fractionCount_eq, ← Nat.pow_add,
      Nat.add_sub_cancel' (by omega)]
    exact Nat.log2_self_le positive
  have shift : 2046 * fractionCount ≤ (magnitude.log2 - 52) * fractionCount :=
    Nat.mul_le_mul_right _ (by omega)
  have sum : infinityCode = 2046 * fractionCount + fractionCount := by decide
  rw [sum]
  exact Nat.add_le_add shift leading

theorem floorCode_le_nearestCode (numerator denominator : Nat) :
    floorCode (numerator / denominator) ≤ nearestCode numerator denominator := by
  simp only [nearestCode]
  split
  · exact Nat.le_refl _
  · split
    · exact Nat.le_succ _
    · split
      · exact Nat.le_refl _
      · exact Nat.le_succ _

/-- A quotient below half of the least magnitude is nearest to zero. -/
theorem nearestCode_of_small {numerator denominator : Nat} (small : 2 * numerator < denominator) :
    nearestCode numerator denominator = 0 := by
  have quotient : numerator / denominator = 0 := Nat.div_eq_of_lt (by omega)
  have low : floorCode 0 = 0 := by decide
  have middle : (units 0 + units 1) * denominator = denominator := by
    rw [units_of_lt (by decide), units_of_lt (by decide), Nat.zero_add, Nat.one_mul]
  simp only [nearestCode, quotient, low, Nat.zero_add, middle, if_pos small]

theorem nearestCode_units (code : Nat) : nearestCode (units code) 1 = code := by
  have below : 2 * units code < (units code + units (code + 1)) * 1 := by
    have := units_lt_succ code
    omega
  simp only [nearestCode, Nat.div_one, floorCode_units, if_pos below]

theorem nearestCode_scale (numerator denominator : Nat) {scale : Nat} (positive : 0 < scale) :
    nearestCode (numerator * scale) (denominator * scale) = nearestCode numerator denominator := by
  simp only [nearestCode, Nat.mul_div_mul_right _ _ positive, ← Nat.mul_assoc,
    Nat.mul_lt_mul_right positive]

/-- Equal quotients are nearest to the same code. -/
theorem nearestCode_congr {numerator denominator numerator' denominator' : Nat}
    (positive : 0 < denominator) (positive' : 0 < denominator')
    (cross : numerator * denominator' = numerator' * denominator) :
    nearestCode numerator denominator = nearestCode numerator' denominator' := by
  rw [← nearestCode_scale numerator denominator positive', cross, Nat.mul_comm denominator,
    nearestCode_scale numerator' denominator' positive]

end PermissionRules.Double
