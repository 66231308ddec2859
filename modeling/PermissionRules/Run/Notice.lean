import PermissionRules.Rules.Repair
import PermissionRules.Settings.Load
import PermissionRules.Text.Terminal

/-! Notices: what a run says beside its report. They are coloured on a terminal only. -/
namespace PermissionRules.Run
open Files Rules Settings

/-- Why a run ends without a report. -/
inductive RunError where
  | noTargets (searched : List Path)
  | load (target : Target) (fault : LoadFault)
  | write (path : Path) (fault : Files.Fault)
  | output (fault : Files.Fault)
  deriving DecidableEq, Repr

def RunError.message : RunError → String
  | noTargets searched =>
    "No settings files found (looked in: " ++ ", ".intercalate searched ++ ")"
  | load target fault => "Failed to load settings from " ++ target.display ++ ": " ++ fault.message
  | write path fault => "Failed to write settings to " ++ path ++ ": " ++ fault.message
  | output fault => "Failed to write output: " ++ fault.message

inductive Notice where
  | migrated (target : Target) (migration : Migration)
  | removed (target : Target) (removal : Removal)
  | skipped (target : Target) (fault : LoadFault)
  | alreadyValid (pattern : String)
  | noMigration (pattern : String) (fault : Pattern.Fault)
  | failed (error : RunError)
  deriving DecidableEq, Repr

inductive Severity where
  | warning
  | error
  deriving DecidableEq, Repr

def Severity.label : Severity → String
  | warning => "Warning"
  | error => "Error"

def Severity.colour : Severity → String
  | warning => Text.yellow
  | error => Text.red

namespace Notice

def severity : Notice → Severity
  | failed _ => .error
  | _ => .warning

def message : Notice → String
  | migrated target migration =>
    "Migrated permission pattern in " ++ target.display ++ ": " ++ migration.pattern ++ " -> " ++
      migration.migrated
  | removed target removal =>
    "Removed invalid permission pattern from " ++ removal.category.key ++ " in " ++
      target.display ++ ": " ++ removal.pattern ++ " (" ++ removal.fault.message ++ ")"
  | skipped target fault => "Skipping settings " ++ target.display ++ ": " ++ fault.message
  | alreadyValid pattern => pattern ++ " is already valid"
  | noMigration pattern fault => "No rewrite for " ++ pattern ++ ": " ++ fault.message
  | failed error => error.message

/-- The text of a notice, with a line feed at its end. -/
def render (terminal : Bool) (notice : Notice) : String :=
  let line := notice.severity.label ++ ": " ++ notice.message
  (if terminal then notice.severity.colour ++ line ++ Text.plainColour else line) ++ "\n"

end Notice
end PermissionRules.Run
