import PermissionRules.Decimal.Nearest
import PermissionRules.Proofs.Double.Encoding

/-! Reading a decimal rounds its exact value. The two short cuts for exponents outside the range of
doubles agree with the exact quotient, so decimals of one value are read as one double however their
digits are split between the significand and the exponent. -/
namespace PermissionRules.Decimal
open Double

/-- The code nearest to the exact value, as one quotient whatever the sign of the exponent. -/
def exactCode (d : Decimal) : Nat :=
  nearestCode (d.digits * 10 ^ d.exponent.toNat * oneUnits) (10 ^ (-d.exponent).toNat)

theorem eight_pow_le_ten_pow (n : Nat) : 2 ^ (3 * n) ≤ 10 ^ n :=
  calc 2 ^ (3 * n) = 8 ^ n := Nat.pow_mul 2 3 n
    _ ≤ 10 ^ n := Nat.pow_le_pow_left (by decide) n

theorem exactCode_zero {d : Decimal} (zero : d.digits = 0) : d.exactCode = 0 := by
  rw [exactCode, zero, Nat.zero_mul, Nat.zero_mul]
  exact nearestCode_of_small (Nat.pow_pos (by decide))

theorem exactCode_ofNat {d : Decimal} {power : Nat} (exponent : d.exponent = .ofNat power) :
    d.exactCode = nearestCode (d.digits * 10 ^ power * oneUnits) 1 := by
  have denominator : (-d.exponent).toNat = 0 := by
    rw [exponent]
    exact Int.toNat_of_nonpos (by simp)
  rw [exactCode, denominator, exponent, Nat.pow_zero]
  rfl

theorem exactCode_negSucc {d : Decimal} {places : Nat} (exponent : d.exponent = .negSucc places) :
    d.exactCode = nearestCode (d.digits * oneUnits) (10 ^ (places + 1)) := by
  have numerator : d.exponent.toNat = 0 := by
    rw [exponent]
    rfl
  rw [exactCode, numerator, exponent, Nat.pow_zero, Nat.mul_one]
  rfl

/-- An exponent beyond the bound makes any decimal but zero infinite. -/
theorem infinityCode_le_exactCode {d : Decimal} {power : Nat} (nonzero : d.digits ≠ 0)
    (exponent : d.exponent = .ofNat power) (large : exponentBound < power) :
    infinityCode ≤ d.exactCode := by
  have magnitude : 2 ^ (3 * power + unitPlaces) ≤ d.digits * 10 ^ power * oneUnits := by
    rw [Nat.pow_add, ← oneUnits_eq]
    apply Nat.mul_le_mul_right
    exact (eight_pow_le_ten_pow power).trans (Nat.le_mul_of_pos_left _ (Nat.pos_of_ne_zero nonzero))
  have bound : 2098 ≤ 3 * power + unitPlaces := by
    simp only [exponentBound, unitPlaces] at large ⊢
    omega
  rw [exactCode_ofNat exponent]
  refine (infinityCode_le_floorCode magnitude bound).trans ?_
  simpa only [Nat.div_one] using floorCode_le_nearestCode (d.digits * 10 ^ power * oneUnits) 1

/-- A negative exponent that outweighs the digits leaves less than half a unit. -/
theorem exactCode_of_tiny {d : Decimal} {places : Nat} (exponent : d.exponent = .negSucc places)
    (tiny : d.digits.log2 + (unitPlaces + 2) ≤ 3 * (places + 1)) : d.exactCode = 0 := by
  have below : ∀ power, d.digits.log2 + (power + 2) ≤ 3 * (places + 1) →
      2 * (d.digits * 2 ^ power) < 10 ^ (places + 1) := by
    intro power bound
    calc 2 * (d.digits * 2 ^ power) = d.digits * 2 ^ (power + 1) := by
          rw [Nat.pow_succ', Nat.mul_left_comm]
      _ < 2 ^ (d.digits.log2 + 1) * 2 ^ (power + 1) :=
          Nat.mul_lt_mul_of_pos_right Nat.lt_log2_self (Nat.two_pow_pos _)
      _ = 2 ^ (d.digits.log2 + 1 + (power + 1)) := (Nat.pow_add 2 _ _).symm
      _ ≤ 2 ^ (3 * (places + 1)) := Nat.pow_le_pow_right (by decide) (by omega)
      _ ≤ 10 ^ (places + 1) := eight_pow_le_ten_pow _
  rw [exactCode_negSucc exponent, oneUnits_eq]
  exact nearestCode_of_small (below unitPlaces tiny)

theorem code_eq_exactCode (d : Decimal) :
    d.code = d.exactCode ∨ infinityCode ≤ d.code ∧ infinityCode ≤ d.exactCode := by
  by_cases zero : d.digits = 0
  · exact .inl (by rw [code, if_pos zero, exactCode_zero zero])
  · rw [code, if_neg zero]
    cases exponent : d.exponent with
    | ofNat power =>
      dsimp only
      by_cases large : exponentBound < power
      · rw [if_pos large]
        exact .inr ⟨Nat.le_refl _, infinityCode_le_exactCode zero exponent large⟩
      · rw [if_neg large, exactCode_ofNat exponent]
        exact .inl rfl
    | negSucc places =>
      dsimp only
      by_cases tiny : d.digits.log2 + (unitPlaces + 2) ≤ 3 * (places + 1)
      · rw [if_pos tiny]
        exact .inl (exactCode_of_tiny exponent tiny).symm
      · rw [if_neg tiny, exactCode_negSucc exponent]
        exact .inl rfl

theorem code?_eq_exact (d : Decimal) :
    d.code? = if d.exactCode < infinityCode then some d.exactCode else none := by
  rcases code_eq_exactCode d with same | ⟨infinite, infinite'⟩
  · rw [code?, same]
  · rw [code?, if_neg infinite.not_gt, if_neg infinite'.not_gt]

theorem exactCode_shift (d : Decimal) (places : Nat) :
    exactCode ⟨d.digits * 10 ^ places, d.exponent - places⟩ = d.exactCode := by
  have balance : places + (d.exponent - places).toNat + (-d.exponent).toNat =
      d.exponent.toNat + (-(d.exponent - places)).toNat := by omega
  apply nearestCode_congr (Nat.pow_pos (by decide)) (Nat.pow_pos (by decide))
  calc d.digits * 10 ^ places * 10 ^ (d.exponent - places).toNat * oneUnits *
        10 ^ (-d.exponent).toNat
      = d.digits * 10 ^ (places + (d.exponent - places).toNat + (-d.exponent).toNat) *
          oneUnits := by rw [Nat.pow_add, Nat.pow_add]; ring
    _ = d.digits * 10 ^ d.exponent.toNat * oneUnits * 10 ^ (-(d.exponent - places)).toNat := by
        rw [balance, Nat.pow_add]; ring

/-- Zeros that move from the exponent to the digits do not change what is read. -/
theorem code?_shift (d : Decimal) (places : Nat) :
    code? ⟨d.digits * 10 ^ places, d.exponent - places⟩ = d.code? := by
  rw [code?_eq_exact, code?_eq_exact, exactCode_shift]

end PermissionRules.Decimal
