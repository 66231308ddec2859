import PermissionRules.Document.Value

/-! Tokens of a document text. Numbers are tokens already evaluated; a word is an identifier, and
`plain` when no character of it was escaped. -/
namespace PermissionRules.Document

inductive Token where
  | openBrace
  | closeBrace
  | openBracket
  | closeBracket
  | colon
  | comma
  | word (name : String) (plain : Bool)
  | text (text : String)
  | number (value : Value)
  deriving DecidableEq, Repr

/-- The value that a plain word stands for; a number without a finite value is null. -/
def literal? : String → Option Value
  | "null" | "Infinity" | "NaN" => some .null
  | "true" => some (.bool true)
  | "false" => some (.bool false)
  | _ => none

end PermissionRules.Document
