import PermissionRules.Decimal.Nearest

/-! The text of a decimal. It is positional, with one place at least, while the exponent of the
leading digit stays between the two bounds, and scientific with a signed exponent beyond them. -/
namespace PermissionRules.Decimal

def leastPositional : Int := -5
def mostPositional : Int := 15

def significant (digits : List Char) : List Char :=
  (digits.reverse.dropWhile (· == '0')).reverse

def positional (digits : List Char) : Int → List Char
  | .ofNat leading =>
    let places := digits.drop (leading + 1)
    digits.take (leading + 1) ++ List.replicate (leading + 1 - digits.length) '0' ++
      '.' :: (if places.isEmpty then ['0'] else places)
  | .negSucc zeros => '0' :: '.' :: List.replicate zeros '0' ++ digits

def signedDigits : Int → List Char
  | .ofNat n => '+' :: Nat.toDigits 10 n
  | .negSucc n => '-' :: Nat.toDigits 10 (n + 1)

def scientific (digits : List Char) (leading : Int) : List Char :=
  digits.take 1 ++ (if digits.length ≤ 1 then [] else '.' :: digits.drop 1) ++
    'e' :: signedDigits leading

def write (d : Decimal) : List Char :=
  if d.digits = 0 then ['0', '.', '0']
  else
    let all := Nat.toDigits 10 d.digits
    let leading := d.exponent + all.length - 1
    let digits := significant all
    if leastPositional ≤ leading ∧ leading ≤ mostPositional then positional digits leading
    else scientific digits leading

end PermissionRules.Decimal
