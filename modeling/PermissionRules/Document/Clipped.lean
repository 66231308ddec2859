import PermissionRules.Document.Numeral
import PermissionRules.Double.Scaling

/-! Numerals read into 64 bits. The leading digits that fit are kept as a whole number, the others only
count as places, and the whole number is scaled by a rounded power of ten. The value may therefore lie
beside the nearest double, and close to the greatest one it may be infinite where that is not. -/
namespace PermissionRules.Document

/-- Appends digits to a whole number as long as it keeps within 64 bits; the other digits are left. -/
def appendDigits (n : Nat) : List Char → Nat × List Char
  | [] => (n, [])
  | c :: rest =>
    let longer := 10 * n + (c.toNat - '0'.toNat)
    if longer < Nat.pow 2 64 then appendDigits longer rest else (n, c :: rest)

namespace Numeral

/-- The decimal of the digits that are kept. -/
def clipped (n : Numeral) : Decimal :=
  let (whole, places) := appendDigits 0 n.whole
  let (digits, dropped) := appendDigits whole n.fraction
  ⟨digits, n.exponent + places.length - (n.fraction.length - dropped.length)⟩

/-- The code of the scaled magnitude. -/
def clippedCode (n : Numeral) : Nat :=
  Double.scaled (Double.nearestWhole n.clipped.digits) n.clipped.exponent

/-- The value, unless it is infinite. An integer of 64 bits stays one, except that a negative zero is a
double. -/
def clippedValue? (negative : Bool) (n : Numeral) : Option Value :=
  let magnitude := naturalOf n.whole
  let signed : Int := if negative then -magnitude else magnitude
  if n.integral && Value.IntegerInRange signed && !(negative && magnitude == 0) then
    some (.integer signed)
  else if n.clippedCode < Double.infinityCode then some (.double ⟨negative, n.clippedCode⟩)
  else none

end Numeral
end PermissionRules.Document
