/-! Doubles by their encoding. The code of a magnitude is its IEEE encoding without the sign bit, so
codes and magnitudes are in the same order and the next larger magnitude has the next code.
Magnitudes are measured in units of 2^-1074, of which every finite double is a whole number. -/
namespace PermissionRules

structure Double where
  negative : Bool
  code : Nat
  deriving DecidableEq, Repr

namespace Double

/-- The binary places of the least magnitude. -/
def unitPlaces : Nat := 1074

/-- The units of one. -/
def oneUnits : Nat := Nat.pow 2 unitPlaces

def fractionCount : Nat := Nat.pow 2 52

/-- The code of infinity; smaller codes are finite. -/
def infinityCode : Nat := 2047 * fractionCount

def IsFinite (x : Double) : Prop :=
  x.code < infinityCode

instance (x : Double) : Decidable x.IsFinite :=
  inferInstanceAs (Decidable (x.code < infinityCode))

/-- The magnitude of a code. Without an exponent the fraction counts units; each step of the
exponent after the first doubles the worth of a fraction with its leading one. -/
def units (code : Nat) : Nat :=
  if code < fractionCount then code
  else (fractionCount + code % fractionCount) * Nat.pow 2 (code / fractionCount - 1)

/-- The largest code whose magnitude does not exceed a whole number of units. -/
def floorCode (magnitude : Nat) : Nat :=
  let shift := magnitude.log2 - 52
  shift * fractionCount + magnitude / Nat.pow 2 shift

/-- The code nearest to a quotient of units; halfway between two codes, the even one. Codes from
`infinityCode` on stand for magnitudes that no finite double is nearest to. -/
def nearestCode (numerator denominator : Nat) : Nat :=
  let low := floorCode (numerator / denominator)
  let middle := (units low + units (low + 1)) * denominator
  if 2 * numerator < middle then low
  else if middle < 2 * numerator then low + 1
  else if low % 2 = 0 then low
  else low + 1

end Double
end PermissionRules
