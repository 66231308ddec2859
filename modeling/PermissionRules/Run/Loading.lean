import PermissionRules.CommandLine.Invocation
import PermissionRules.Run.Notice
import PermissionRules.Settings.Environment
import PermissionRules.Settings.Locations

/-! Loading the documents a command works on. Targets that are given must load, and the first that
does not ends the run; files found in the scopes are skipped if they do not load, as long as one
does. -/
namespace PermissionRules.Run
open CommandLine Document Files Settings

structure Loaded where
  target : Target
  document : Value
  deriving DecidableEq, Repr

/-- A target found in a scope that did not load. -/
structure Skipped where
  target : Target
  fault : LoadFault
  deriving DecidableEq, Repr

structure Loading where
  skipped : List Skipped
  result : Except RunError (List Loaded)

def loadGiven (look : Path → Sight) : List Target → Except RunError (List Loaded)
  | [] => .ok []
  | target :: rest =>
    match target.load look with
    | .error fault => .error (.load target fault)
    | .ok document => (loadGiven look rest).map (⟨target, document⟩ :: ·)

def loadable? (look : Path → Sight) (target : Target) : Option Loaded :=
  match target.load look with
  | .ok document => some ⟨target, document⟩
  | .error _ => none

def skipped? (look : Path → Sight) (target : Target) : Option Skipped :=
  match target.load look with
  | .ok _ => none
  | .error fault => some ⟨target, fault⟩

def loadFound (look : Path → Sight) (locations : List (Scope × Path)) : Loading :=
  let targets := present look locations
  let loaded := targets.filterMap (loadable? look)
  { skipped := targets.filterMap (skipped? look)
    result :=
      if loaded.isEmpty then .error (.noTargets (locations.map Prod.snd)) else .ok loaded }

/-- The locations of the scopes that a selection asks for. -/
def searched (environment : Environment) (selection : Selection) : List (Scope × Path) :=
  locations (selection.configDirectory <|> environment.userDirectory)
    (selection.projectDirectory.getD environment.workingDirectory) selection.scopes

def load (look : Path → Sight) (environment : Environment) (selection : Selection) : Loading :=
  if selection.settings.isEmpty then loadFound look (searched environment selection)
  else ⟨[], loadGiven look (selection.settings.map Target.ofInput)⟩

/-- Every path that loading may look at. -/
def lookedAt (environment : Environment) (selection : Selection) : List Path :=
  if selection.settings.isEmpty then (searched environment selection).map Prod.snd
  else (selection.settings.map Target.ofInput).filterMap Target.path?

end PermissionRules.Run
