import PermissionRules.Document.Value
import PermissionRules.Rules.Category

/-! The rule lists of a document. Their shape is tolerated and never refused: what is missing or of
another type reads as an empty list. -/
namespace PermissionRules.Rules
open Document

def permissionsKey : String := "permissions"

structure Lists where
  allow : List Value
  ask : List Value
  deny : List Value
  deriving DecidableEq, Repr

namespace Lists

def get (lists : Lists) : Category → List Value
  | .allow => lists.allow
  | .ask => lists.ask
  | .deny => lists.deny

/-- The list under a key of the permissions of a document. -/
def read (document : Value) (category : Category) : List Value :=
  (((document.get? permissionsKey).bind (·.get? category.key)).bind Value.array?).getD []

def ofDocument (document : Value) : Lists :=
  ⟨read document .allow, read document .ask, read document .deny⟩

/-- All entries with their category, in document order. -/
def entries (lists : Lists) : List (Category × Value) :=
  Category.all.flatMap fun category => (lists.get category).map (category, ·)

def isEmpty (lists : Lists) : Bool :=
  lists.entries.isEmpty

end Lists
end PermissionRules.Rules
