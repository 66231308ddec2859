import PermissionRules.Report.Format
import PermissionRules.Rules.Issue

/-! Reports on the issues of documents. -/
namespace PermissionRules.Report
open Document Rules

structure DocumentCheck where
  source : String
  valid : Bool
  issues : List Issue
  deriving DecidableEq, Repr

def issueLines (issue : Issue) : List String :=
  ("  " ++ issue.category.key ++ ": " ++ issue.pattern) ::
    ("    error: " ++ issue.fault.message) ::
    issue.suggestion.toList.map ("    suggestion: " ++ ·)

def issueValue (issue : Issue) : Value :=
  .object ([("pattern", .string issue.pattern), ("category", .string issue.category.key),
    ("error", .string issue.fault.message)] ++
      optionalMember "suggestion" (issue.suggestion.map .string))

namespace DocumentCheck

def ofDocument (source : String) (document : Value) : DocumentCheck :=
  ⟨source, isClean document, Rules.issues document⟩

def lines (check : DocumentCheck) : List String :=
  if check.issues.isEmpty then [check.source ++ ": ok"]
  else
    (check.source ++ ": " ++ toString check.issues.length ++ " issue(s)") ::
      check.issues.flatMap issueLines

def value (check : DocumentCheck) : Value :=
  .object [("source", .string check.source), ("valid", .bool check.valid),
    ("issues", .array (check.issues.map issueValue))]

end DocumentCheck

def checks (format : Format) (documents : List DocumentCheck) : String :=
  render format (documents.flatMap (·.lines))
    (.object [("valid", .bool (documents.all (·.valid))),
      ("documents", .array (documents.map (·.value)))])

end PermissionRules.Report
