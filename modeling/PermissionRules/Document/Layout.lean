import PermissionRules.Text.Blank

/-! Layout between the tokens of a document: blanks and comments of either kind. -/
namespace PermissionRules.Document
open Text

/-- The next-line control is a blank of running text but not of a document; a byte order mark is the
reverse. -/
def isLayoutBlank (c : Char) : Bool :=
  (isBlank c && c != '\u0085') || c == '\ufeff'

def isLineEnd (c : Char) : Bool :=
  c == '\n' || c == '\r' || isSeparator c

inductive LayoutMode where
  | between
  | lineComment
  | blockComment
  deriving DecidableEq, Repr

/-- Drops leading layout; nothing is left of a text that ends inside a block comment. -/
def skipLayout : LayoutMode → List Char → Option (List Char)
  | .between, [] => some []
  | .between, '/' :: '/' :: rest => skipLayout .lineComment rest
  | .between, '/' :: '*' :: rest => skipLayout .blockComment rest
  | .between, c :: rest => if isLayoutBlank c then skipLayout .between rest else some (c :: rest)
  | .lineComment, [] => some []
  | .lineComment, c :: rest =>
    if isLineEnd c then skipLayout .between rest else skipLayout .lineComment rest
  | .blockComment, [] => none
  | .blockComment, '*' :: '/' :: rest => skipLayout .between rest
  | .blockComment, _ :: rest => skipLayout .blockComment rest

@[grind →]
theorem skipLayout_length {mode : LayoutMode} {text rest : List Char}
    (skipped : skipLayout mode text = some rest) : rest.length ≤ text.length := by
  fun_induction skipLayout mode text <;> simp_all <;> omega

end PermissionRules.Document
