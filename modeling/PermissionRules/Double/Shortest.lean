import PermissionRules.Decimal.Nearest

/-! The shortest decimal of a double: among the decimals that read back to it, one with the fewest
digits, and of those the nearest. -/
namespace PermissionRules.Double

/-- The digits of the exact decimal of a magnitude, with an exponent of `-unitPlaces`. -/
def exactDigits (code : Nat) : Nat :=
  units code * Nat.pow 5 unitPlaces

def digitCount (n : Nat) : Nat :=
  (Nat.toDigits 10 n).length

/-- A multiple of `10 ^ places`, in units of `10 ^ -unitPlaces`. -/
def multiple (digits places : Nat) : Decimal :=
  ⟨digits, (places : Int) - unitPlaces⟩

def readsBack (code : Nat) (decimal : Decimal) : Bool :=
  decimal.code? == some code

/-- One of two neighbours that reads back to the code, the preferred one if both do. -/
def neighbour? (code : Nat) (low high : Decimal) (preferLow : Bool) : Option Decimal :=
  match readsBack code low, readsBack code high with
  | false, false => none
  | true, false => some low
  | false, true => some high
  | true, true => some (if preferLow then low else high)

/-- The multiple that reads back to the code and lies next to its exact value; of two such neighbours
the nearer one, halfway between them the even one. -/
def onGrid? (code places : Nat) : Option Decimal :=
  let step := Nat.pow 10 places
  let below := exactDigits code / step
  let remainder := exactDigits code % step
  neighbour? code (multiple below places) (multiple (below + 1) places)
    (2 * remainder < step || (2 * remainder == step && below % 2 == 0))

/-- No double needs more significant digits. -/
def maxDigits : Nat := 17

def shortest (code : Nat) : Decimal :=
  if code = 0 then ⟨0, 0⟩
  else
    let size := digitCount (exactDigits code)
    let grids := (List.range maxDigits).map fun dropped => size - (dropped + 1)
    (grids.findSome? (onGrid? code)).getD ⟨exactDigits code, -unitPlaces⟩

end PermissionRules.Double
