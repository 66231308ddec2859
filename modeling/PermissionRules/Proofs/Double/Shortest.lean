import PermissionRules.Double.Shortest
import PermissionRules.Proofs.Decimal.Rounding

/-! The shortest decimal of a finite double reads back to it. A decimal on a grid was tried before it
was chosen, and the exact decimal, which is left when no grid has one, is the double itself. -/
namespace PermissionRules.Double

theorem code?_of_readsBack {code : Nat} {decimal : Decimal} (tried : readsBack code decimal = true) :
    decimal.code? = some code :=
  beq_iff_eq.mp tried

theorem code?_of_neighbour? {code : Nat} {low high decimal : Decimal} {preferLow : Bool}
    (chosen : neighbour? code low high preferLow = some decimal) :
    decimal.code? = some code := by
  unfold neighbour? at chosen
  split at chosen
  case h_1 => contradiction
  case h_2 tried _ => exact Option.some.inj chosen ▸ code?_of_readsBack tried
  case h_3 tried => exact Option.some.inj chosen ▸ code?_of_readsBack tried
  case h_4 lowTried highTried =>
    rw [← Option.some.inj chosen]
    split
    · exact code?_of_readsBack lowTried
    · exact code?_of_readsBack highTried

/-- Units of `2 ^ -places` have exactly `places` decimal places. -/
theorem nearestCode_decimal (code places : Nat) :
    nearestCode (units code * 5 ^ places * 2 ^ places) (10 ^ places) = code := by
  have ten : 10 ^ places = 5 ^ places * 2 ^ places := Nat.mul_pow 5 2 places
  calc nearestCode (units code * 5 ^ places * 2 ^ places) (10 ^ places)
      = nearestCode (units code) 1 := by
        apply nearestCode_congr (Nat.pow_pos (by decide)) (by decide)
        rw [ten, Nat.mul_one, Nat.mul_assoc]
    _ = code := nearestCode_units code

theorem exactDigits_eq (code : Nat) : exactDigits code = units code * 5 ^ unitPlaces := by
  unfold exactDigits
  generalize unitPlaces = places
  rw [Nat.pow_eq]

theorem exactCode_exactDigits (code : Nat) :
    Decimal.exactCode ⟨exactDigits code, -unitPlaces⟩ = code := by
  have numerator : (-(unitPlaces : Int)).toNat = 0 := Int.toNat_of_nonpos (by omega)
  have denominator : (- -(unitPlaces : Int)).toNat = unitPlaces := by omega
  rw [Decimal.exactCode, exactDigits_eq, numerator, denominator, oneUnits_eq, Nat.pow_zero,
    Nat.mul_one]
  exact nearestCode_decimal code unitPlaces

theorem code?_shortest {code : Nat} (finite : code < infinityCode) :
    (shortest code).code? = some code := by
  unfold shortest
  split
  case isTrue zero => rw [zero]; rfl
  case isFalse =>
    dsimp only
    cases found : List.findSome? (onGrid? code) _ with
    | none =>
      rw [Option.getD_none, Decimal.code?_eq_exact, exactCode_exactDigits, if_pos finite]
    | some decimal =>
      obtain ⟨places, _, chosen⟩ := List.exists_of_findSome?_eq_some found
      exact code?_of_neighbour? chosen

end PermissionRules.Double
