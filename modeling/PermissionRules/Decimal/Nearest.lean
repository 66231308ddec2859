import PermissionRules.Double.Basic

/-! Reading decimals into doubles: the magnitude nearest to `digits * 10 ^ exponent`, computed
exactly. Exponents far outside the range of doubles are answered without forming the power. -/
namespace PermissionRules

/-- A decimal number without its sign. -/
structure Decimal where
  digits : Nat
  exponent : Int
  deriving DecidableEq, Repr

namespace Decimal
open Double

/-- A decimal other than zero with a larger exponent is beyond the doubles. -/
def exponentBound : Nat := 400

/-- The code of the nearest magnitude. A negative exponent is answered with zero where the decimal
is below half a unit already because `digits` is less than `2 ^ (digits.log2 + 1)` and the power of
ten more than that of eight. -/
def code (d : Decimal) : Nat :=
  if d.digits = 0 then 0
  else match d.exponent with
    | .ofNat power =>
      if exponentBound < power then infinityCode
      else nearestCode (d.digits * Nat.pow 10 power * oneUnits) 1
    | .negSucc places =>
      if d.digits.log2 + (unitPlaces + 2) ≤ 3 * (places + 1) then 0
      else nearestCode (d.digits * oneUnits) (Nat.pow 10 (places + 1))

/-- The code, if a finite double is nearest. -/
def code? (d : Decimal) : Option Nat :=
  if d.code < infinityCode then some d.code else none

end Decimal
end PermissionRules
