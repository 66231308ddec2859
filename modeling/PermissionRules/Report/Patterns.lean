import PermissionRules.Pattern.Migration
import PermissionRules.Report.Format

/-! Reports on patterns of the command line: whether each is valid, and the migration of a single one. -/
namespace PermissionRules.Report
open Document

structure PatternCheck where
  pattern : String
  fault : Option Pattern.Fault
  suggestion : Option String
  deriving DecidableEq, Repr

namespace PatternCheck

/-- Checks a pattern; its migration is only suggested if it is not valid. -/
def ofPattern (pattern : String) : PatternCheck :=
  let fault := Pattern.fault? pattern
  ⟨pattern, fault, if fault.isSome then Pattern.migrate? pattern else none⟩

def isValid (check : PatternCheck) : Bool :=
  check.fault.isNone

def lines (check : PatternCheck) : List String :=
  match check.fault with
  | none => ["ok       " ++ check.pattern]
  | some fault =>
    ("invalid  " ++ check.pattern) :: ("  error: " ++ fault.message) ::
      check.suggestion.toList.map ("  suggestion: " ++ ·)

def value (check : PatternCheck) : Value :=
  .object ([("pattern", .string check.pattern), ("valid", .bool check.isValid),
    ("error", textOrNull (check.fault.map (·.message)))] ++
      optionalMember "suggestion" (check.suggestion.map .string))

end PatternCheck

def patterns (format : Format) (checks : List PatternCheck) : String :=
  render format (checks.flatMap (·.lines)) (.array (checks.map (·.value)))

def migration (format : Format) (pattern : String) (migrated : Option String) : String :=
  render format migrated.toList
    (.object [("pattern", .string pattern), ("migrated", textOrNull migrated)])

end PermissionRules.Report
