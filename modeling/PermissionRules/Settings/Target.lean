import PermissionRules.Files.Path
import PermissionRules.Settings.Scope
import PermissionRules.Text.Blank

/-! Targets: the documents a command works on, in files or given inline. -/
namespace PermissionRules.Settings
open Files

inductive Target where
  | file (path : Path) (scope : Option Scope)
  | inline (text : String)
  deriving DecidableEq, Repr

namespace Target

/-- A text that starts with a brace, blanks aside, is a document itself; any other is a path. -/
def ofInput (input : String) : Target :=
  let trimmed := Text.trim input.toList
  if trimmed.head? == some '{' then inline (.ofList trimmed) else file input none

def path? : Target → Option Path
  | file path _ => some path
  | inline _ => none

def display : Target → String
  | file path none => path
  | file path (some scope) => path ++ " (" ++ scope.label ++ ")"
  | inline _ => "<inline>"

end Target

end PermissionRules.Settings
