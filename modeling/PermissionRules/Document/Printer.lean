import PermissionRules.Document.Quoted
import PermissionRules.Document.Value
import PermissionRules.Double.Shortest
import PermissionRules.Decimal.Notation

/-! Writing values. The compact and the pretty text have the same tokens and differ in the layout
between them. -/
namespace PermissionRules.Document

/-- What stands between the tokens of a text: `lineBreak` before each element and each closing bracket
of a container that is not empty, by the depth of what follows, and `afterColon` before a value. -/
structure Style where
  lineBreak : Nat → List Char
  afterColon : List Char

def Style.compact : Style where
  lineBreak _ := []
  afterColon := []

def Style.pretty : Style where
  lineBreak depth := '\n' :: List.replicate (2 * depth) ' '
  afterColon := [' ']

def writeInteger : Int → List Char
  | .ofNat n => Nat.toDigits 10 n
  | .negSucc n => '-' :: Nat.toDigits 10 (n + 1)

def writeDouble (x : Double) : List Char :=
  (if x.negative then ['-'] else []) ++ (Double.shortest x.code).write

namespace Value

mutual

/-- Writes a value in front of the text that follows it. -/
def write (style : Style) (depth : Nat) (value : Value) (following : List Char) : List Char :=
  match value with
  | null => ['n', 'u', 'l', 'l'] ++ following
  | bool true => ['t', 'r', 'u', 'e'] ++ following
  | bool false => ['f', 'a', 'l', 's', 'e'] ++ following
  | integer n => writeInteger n ++ following
  | double x => writeDouble x ++ following
  | string text => quoted text ++ following
  | array [] => '[' :: ']' :: following
  | array (item :: rest) =>
    '[' :: style.lineBreak (depth + 1) ++ write style (depth + 1) item
      (writeItems style (depth + 1) rest (style.lineBreak depth ++ ']' :: following))
  | object [] => '{' :: '}' :: following
  | object ((key, value) :: rest) =>
    '{' :: style.lineBreak (depth + 1) ++ quoted key ++ ':' :: style.afterColon ++
      write style (depth + 1) value
        (writeMembers style (depth + 1) rest (style.lineBreak depth ++ '}' :: following))
termination_by structural value

/-- Writes the items after the first. -/
def writeItems (style : Style) (depth : Nat) (items : List Value) (following : List Char) :
    List Char :=
  match items with
  | [] => following
  | item :: rest =>
    ',' :: style.lineBreak depth ++ write style depth item (writeItems style depth rest following)
termination_by structural items

/-- Writes the members after the first. -/
def writeMembers (style : Style) (depth : Nat) (members : List (String × Value))
    (following : List Char) : List Char :=
  match members with
  | [] => following
  | (key, value) :: rest =>
    ',' :: style.lineBreak depth ++ quoted key ++ ':' :: style.afterColon ++
      write style depth value (writeMembers style depth rest following)
termination_by structural members

end

def compact (value : Value) : String :=
  .ofList (value.write .compact 0 [])

def pretty (value : Value) : String :=
  .ofList (value.write .pretty 0 [])

/-- The pretty text as the content of a file, with a line feed at its end. -/
def prettyFile (value : Value) : String :=
  value.pretty ++ "\n"

end Value
end PermissionRules.Document
