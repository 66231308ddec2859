/-! Finite maps that keep the order in which their keys were first put. A key that is put again keeps
its place and takes the new value. -/
namespace PermissionRules

/-- Entries of a map. -/
abbrev Ordered (κ α : Type) := List (κ × α)

namespace Ordered
variable {κ α : Type} [DecidableEq κ]

def keys (map : Ordered κ α) : List κ :=
  map.map Prod.fst

def get? : Ordered κ α → κ → Option α
  | [], _ => none
  | (first, value) :: rest, key => if first = key then some value else get? rest key

def put : Ordered κ α → κ → α → Ordered κ α
  | [], key, value => [(key, value)]
  | (first, held) :: rest, key, value =>
    if first = key then (key, value) :: rest else (first, held) :: put rest key value

/-- The map of entries put one after the other. -/
def ofWritten (written : List (κ × α)) : Ordered κ α :=
  written.foldl (fun map (key, value) => put map key value) []

end Ordered
end PermissionRules
