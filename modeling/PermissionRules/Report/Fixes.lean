import PermissionRules.Report.Format
import PermissionRules.Rules.Repair

/-! Reports on the repair of documents. -/
namespace PermissionRules.Report
open Document Rules

/-- How a document was repaired. The repaired document itself is only given where there is no file
that holds it. -/
structure DocumentFix where
  source : String
  migrated : List Migration
  removed : List Removal
  written : Bool
  settings : Option Value
  deriving DecidableEq, Repr

namespace DocumentFix

def changed (fix : DocumentFix) : Bool :=
  !fix.migrated.isEmpty || !fix.removed.isEmpty

def status (fix : DocumentFix) : String :=
  if fix.written then " (written)"
  else if fix.changed && fix.settings.isNone then " (dry run, pass --write to save)"
  else ""

def summary (fix : DocumentFix) : String :=
  fix.source ++ ": " ++ toString fix.migrated.length ++ " migrated, " ++
    toString fix.removed.length ++ " removed" ++ fix.status

end DocumentFix

def migrationLine (migration : Migration) : String :=
  "  " ++ migration.category.key ++ ": " ++ migration.pattern ++ " -> " ++ migration.migrated

def removalLine (removal : Removal) : String :=
  "  " ++ removal.category.key ++ ": removed " ++ removal.pattern ++
    " (" ++ removal.fault.message ++ ")"

def migrationValue (migration : Migration) : Value :=
  .object [("original", .string migration.pattern), ("migrated", .string migration.migrated),
    ("category", .string migration.category.key)]

def removalValue (removal : Removal) : Value :=
  .object [("pattern", .string removal.pattern), ("category", .string removal.category.key),
    ("reason", .string removal.fault.message)]

namespace DocumentFix

def lines (fix : DocumentFix) : List String :=
  fix.summary :: fix.migrated.map migrationLine ++ fix.removed.map removalLine ++
    fix.settings.toList.map (·.pretty)

def value (fix : DocumentFix) : Value :=
  .object ([("source", .string fix.source),
    ("migrated", .array (fix.migrated.map migrationValue)),
    ("removed", .array (fix.removed.map removalValue)), ("written", .bool fix.written)] ++
      optionalMember "settings" fix.settings)

end DocumentFix

def fixes (format : Format) (documents : List DocumentFix) : String :=
  render format (documents.flatMap (·.lines)) (.array (documents.map (·.value)))

end PermissionRules.Report
