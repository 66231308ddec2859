/-! Hexadecimal digits and the code units that escapes spell with them. -/
namespace PermissionRules.Document

def isHexDigit (c : Char) : Bool :=
  c.isDigit || ('a' ≤ c && c ≤ 'f') || ('A' ≤ c && c ≤ 'F')

def hexDigit (c : Char) : Nat :=
  if c.isDigit then c.toNat - '0'.toNat
  else if 'a' ≤ c then c.toNat - 'a'.toNat + 10
  else c.toNat - 'A'.toNat + 10

def hexNumber (digits : List Char) : Nat :=
  digits.foldl (fun n c => 16 * n + hexDigit c) 0

/-- Reads exactly `count` digits. -/
def readHex (count : Nat) (text : List Char) : Option (Nat × List Char) :=
  let digits := text.take count
  if digits.length = count && digits.all isHexDigit then some (hexNumber digits, text.drop count)
  else none

@[grind →]
theorem readHex_length {count n : Nat} {text rest : List Char}
    (read : readHex count text = some (n, rest)) : rest.length ≤ text.length := by
  simp only [readHex] at read
  split at read
  · simp only [Option.some.injEq, Prod.mk.injEq] at read
    simp [← read.2]
  · contradiction

/-- The first half of a surrogate pair. -/
def isLead (unit : Nat) : Bool :=
  0xd800 ≤ unit && unit < 0xdc00

/-- The second half of a surrogate pair. -/
def isTrail (unit : Nat) : Bool :=
  0xdc00 ≤ unit && unit < 0xe000

def surrogatePair (lead trail : Nat) : Char :=
  .ofNat (0x10000 + (lead - 0xd800) * 0x400 + (trail - 0xdc00))

end PermissionRules.Document
