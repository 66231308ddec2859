import PermissionRules.Document.Printer

/-! Formats of reports. A report is either lines of text or the pretty text of one value. -/
namespace PermissionRules.Report
open Document

inductive Format where
  | text
  | json
  deriving DecidableEq, Repr

/-- Lines as a text, each with a line feed after it. -/
def unlines (lines : List String) : String :=
  .ofList (lines.flatMap fun line => line.toList ++ ['\n'])

/-- A report in either format. -/
def render (format : Format) (lines : List String) (value : Value) : String :=
  match format with
  | .text => unlines lines
  | .json => value.prettyFile

def textOrNull : Option String → Value
  | some text => .string text
  | none => .null

/-- A member that is left out when there is nothing under its key. -/
def optionalMember (key : String) : Option Value → List (String × Value)
  | some value => [(key, value)]
  | none => []

end PermissionRules.Report
