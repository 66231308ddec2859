/-! The categories of rules: what is done with a matching call. -/
namespace PermissionRules.Rules

inductive Category where
  | allow
  | ask
  | deny
  deriving DecidableEq, Repr

namespace Category

/-- All categories, in the order in which a document is read and written. -/
def all : List Category := [allow, ask, deny]

/-- The key of a category's list, which is also its name. -/
def key : Category → String
  | allow => "allow"
  | ask => "ask"
  | deny => "deny"

def ofKey? (key : String) : Option Category :=
  all.find? (·.key = key)

end Category
end PermissionRules.Rules
