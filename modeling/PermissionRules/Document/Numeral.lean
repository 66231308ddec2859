import PermissionRules.Document.Value
import PermissionRules.Decimal.Nearest

/-! Decimal numerals of a document text and the values they denote. -/
namespace PermissionRules.Document

/-- The parts of an unsigned numeral. It is `integral` when neither a point nor an exponent was
written. -/
structure Numeral where
  whole : List Char
  fraction : List Char
  exponent : Int
  integral : Bool
  deriving DecidableEq, Repr

/-- The double nearest to a decimal, or null where that is infinite. -/
def doubleValue (negative : Bool) (decimal : Decimal) : Value :=
  match decimal.code? with
  | some code => .double ⟨negative, code⟩
  | none => .null

/-- An integer of 64 bits stays one; any other becomes a double. -/
def integerValue (negative : Bool) (magnitude : Nat) : Value :=
  let n : Int := if negative then -magnitude else magnitude
  if Value.IntegerInRange n then .integer n else doubleValue negative ⟨magnitude, 0⟩

def naturalOf (digits : List Char) : Nat :=
  Nat.ofDigitChars 10 digits 0

namespace Numeral

def decimal (n : Numeral) : Decimal :=
  ⟨naturalOf (n.whole ++ n.fraction), n.exponent - n.fraction.length⟩

def value (negative : Bool) (n : Numeral) : Value :=
  if n.integral then integerValue negative (naturalOf n.whole) else doubleValue negative n.decimal

def signedExponent? (negative : Bool) (digits : List Char) : Option Int :=
  if digits.isEmpty || !digits.all Char.isDigit then none
  else some (if negative then -naturalOf digits else naturalOf digits)

/-- The exponent part, which may be absent. -/
def exponent? : List Char → Option Int
  | [] => some 0
  | mark :: rest =>
    if mark == 'e' || mark == 'E' then
      match rest with
      | '+' :: digits => signedExponent? false digits
      | '-' :: digits => signedExponent? true digits
      | digits => signedExponent? false digits
    else none

/-- A whole text as a numeral: digits with a point anywhere among them, or none, and an exponent. -/
def ofText? (text : List Char) : Option Numeral :=
  let whole := text.takeWhile Char.isDigit
  match text.dropWhile Char.isDigit with
  | [] => if whole.isEmpty then none else some ⟨whole, [], 0, true⟩
  | '.' :: rest =>
    let fraction := rest.takeWhile Char.isDigit
    if whole.isEmpty && fraction.isEmpty then none
    else (exponent? (rest.dropWhile Char.isDigit)).map (⟨whole, fraction, ·, false⟩)
  | rest =>
    if whole.isEmpty then none
    else (exponent? rest).map (⟨whole, [], ·, false⟩)

end Numeral
end PermissionRules.Document
