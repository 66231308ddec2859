import PermissionRules.Decimal.Nearest

/-! Magnitudes scaled by powers of ten, with a rounding at each step. The power itself is a double, so
that the result may lie beside the double nearest to the exact value. -/
namespace PermissionRules.Double

/-- The code nearest to a whole number. -/
def nearestWhole (n : Nat) : Nat :=
  nearestCode (n * oneUnits) 1

def roundedProduct (a b : Nat) : Nat :=
  nearestCode (units a * units b) oneUnits

def roundedQuotient (a b : Nat) : Nat :=
  nearestCode (units a * oneUnits) (units b)

/-- The exponent of the greatest power of ten among the doubles. -/
def greatestPower : Nat := 308

def powerOfTen (exponent : Nat) : Nat :=
  (Decimal.mk 1 exponent).code

/-- The rounded product with a power of ten. Powers beyond the doubles take every magnitude but zero to
infinity. -/
def timesPower (code places : Nat) : Nat :=
  if places ≤ greatestPower then roundedProduct code (powerOfTen places)
  else if code = 0 then 0
  else infinityCode

/-- The rounded quotient by a power of ten, taken in several steps beyond the greatest power. -/
def overPower (code places : Nat) : Nat :=
  if places ≤ greatestPower then roundedQuotient code (powerOfTen places)
  else if code = 0 then 0
  else overPower (roundedQuotient code (powerOfTen greatestPower)) (places - greatestPower)
termination_by places
decreasing_by
  simp only [greatestPower] at *
  omega

def scaled (code : Nat) : Int → Nat
  | .ofNat places => timesPower code places
  | .negSucc places => overPower code (places + 1)

end PermissionRules.Double
