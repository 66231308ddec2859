import PermissionRules.Settings.Environment
import PermissionRules.Settings.Scope

/-! Where the settings file of each scope is looked for. -/
namespace PermissionRules.Settings
open Files

/-- The path of a scope's file; a user scope has none without a user directory. -/
def Scope.path? (scope : Scope) (user : Option Path) (project : Path) : Option Path :=
  let directory := if scope.isUser then user else some (Path.join project settingsDirectory)
  directory.map (Path.join · scope.fileName)

/-- The files of the scopes asked for, or of all scopes if none is, the weakest scope first. -/
def locations (user : Option Path) (project : Path) (asked : List Scope) : List (Scope × Path) :=
  let chosen := if asked.isEmpty then Scope.all else asked
  (Scope.all.filter (· ∈ chosen)).filterMap fun scope =>
    (scope.path? user project).map (scope, ·)

end PermissionRules.Settings
