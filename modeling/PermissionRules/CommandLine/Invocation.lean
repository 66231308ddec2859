import PermissionRules.Files.Path
import PermissionRules.Report.Format
import PermissionRules.Settings.Scope

/-! What a command line asks for. -/
namespace PermissionRules.CommandLine
open Files Report Settings

/-- Which documents a command works on: those given, or else those of the scopes. -/
structure Selection where
  settings : List String
  scopes : List Scope
  projectDirectory : Option Path
  configDirectory : Option Path
  deriving DecidableEq, Repr

inductive Command where
  | validate (patterns : List String)
  | migrate (pattern : String)
  | check (selection : Selection)
  | fix (selection : Selection) (write : Bool)
  deriving DecidableEq, Repr

structure Invocation where
  format : Format
  command : Command
  deriving DecidableEq, Repr

end PermissionRules.CommandLine
