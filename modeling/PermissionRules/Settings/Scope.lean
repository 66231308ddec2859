/-! The scopes of settings files. -/
namespace PermissionRules.Settings

inductive Scope where
  | user
  | userLocal
  | project
  | projectLocal
  deriving DecidableEq, Repr

namespace Scope

/-- All scopes, the weakest first. -/
def all : List Scope := [user, userLocal, project, projectLocal]

/-- Whether a scope belongs to the user and not to a project. -/
def isUser : Scope → Bool
  | user | userLocal => true
  | project | projectLocal => false

def fileName : Scope → String
  | user | project => "settings.json"
  | userLocal | projectLocal => "settings.local.json"

def label : Scope → String
  | user => "user"
  | userLocal => "user-local"
  | project => "project"
  | projectLocal => "local"

/-- Reads a name in either case. No letter outside ASCII is the capital of a letter in a name, so
lowering the ASCII letters is enough. -/
def ofName? (name : String) : Option Scope :=
  match name.toLower with
  | "user" | "global" => some user
  | "user-local" | "user_local" => some userLocal
  | "project" => some project
  | "local" => some projectLocal
  | _ => none

/-- What is said of a name that `ofName?` does not know. -/
def unknownMessage (name : String) : String :=
  "unknown setting source: " ++ name

end Scope
end PermissionRules.Settings
