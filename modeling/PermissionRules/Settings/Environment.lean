import PermissionRules.Files.Path

/-! The environment of a run. -/
namespace PermissionRules.Settings
open Files

structure Environment where
  home : Option Path
  configDirectory : Option Path
  workingDirectory : Path
  deriving DecidableEq, Repr

/-- The directory of settings below a home or a project. -/
def settingsDirectory : Path := ".claude"

/-- The user's configuration directory: as given unless empty, and otherwise below the home. -/
def Environment.userDirectory (environment : Environment) : Option Path :=
  match environment.configDirectory.filter (!·.isEmpty) with
  | some directory => some directory
  | none => environment.home.map (Path.join · settingsDirectory)

end PermissionRules.Settings
