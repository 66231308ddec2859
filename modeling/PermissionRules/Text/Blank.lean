/-! Spaces of the Unicode character database: the category of space separators and the wider
property `White_Space`, with trimming by the latter. -/
namespace PermissionRules.Text

/-- The category Zs. -/
def isSpaceSeparator (c : Char) : Bool :=
  c == ' ' || c == '\u00a0' || c == '\u1680' || ('\u2000' ≤ c && c ≤ '\u200a') ||
    c == '\u202f' || c == '\u205f' || c == '\u3000'

/-- The line and paragraph separators, which end a line in running text. -/
def isSeparator (c : Char) : Bool :=
  c == '\u2028' || c == '\u2029'

/-- The property `White_Space`: control spaces, separators of every kind and the next-line control. -/
def isBlank (c : Char) : Bool :=
  ('\t' ≤ c && c ≤ '\r') || isSpaceSeparator c || c == '\u0085' || isSeparator c

def trimStart (text : List Char) : List Char :=
  text.dropWhile isBlank

def trimEnd (text : List Char) : List Char :=
  (text.reverse.dropWhile isBlank).reverse

def trim (text : List Char) : List Char :=
  trimEnd (trimStart text)

end PermissionRules.Text
