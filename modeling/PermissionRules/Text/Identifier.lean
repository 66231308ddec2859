import PermissionRules.Text.Ranges

/-! Characters of identifiers, as an unquoted key of a document may be spelled. -/
namespace PermissionRules.Text

def isLetter (c : Char) : Bool :=
  letterRanges.contains c.toNat

def isMark (c : Char) : Bool :=
  markRanges.contains c.toNat

def isIdentifierStart (c : Char) : Bool :=
  c == '$' || c == '_' || isLetter c

/-- The two joiners may stand inside an identifier, never at its start. -/
def isIdentifierRest (c : Char) : Bool :=
  isIdentifierStart c || isMark c || c == '\u200c' || c == '\u200d'

end PermissionRules.Text
