import PermissionRules.Pattern.Grammar

/-! The one migration of a deprecated pattern: a colon and a star at the end of a call's argument
become a blank and a star. -/
namespace PermissionRules.Pattern

/-- `tool(start:*)` becomes `tool(start *)`; no other text is migrated. -/
def migrate? (pattern : String) : Option String :=
  let text := pattern.toList
  match lineFault? text, splitCall text with
  | none, some (tool, argument) =>
    if isDeprecated tool argument then
      let start := argument.take (argument.length - colonStar.length)
      some (.ofList (tool ++ '(' :: start ++ [' ', '*', ')']))
    else none
  | _, _ => none

end PermissionRules.Pattern
