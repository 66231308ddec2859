import PermissionRules.Pattern.Basic
import PermissionRules.Text.Blank

/-! The grammar of rule patterns. A tool is an ASCII identifier; it ends at the first parenthesis of
a call and at the first colon of a subcommand, so each text has at most one split of either kind. -/
namespace PermissionRules.Pattern
open Text

def isToolStart (c : Char) : Bool :=
  c.isAlpha || c == '_'

def isToolRest (c : Char) : Bool :=
  c.isAlphanum || c == '_'

def isToolName : List Char → Bool
  | [] => false
  | c :: rest => isToolStart c && rest.all isToolRest

def isSubcommandName (name : List Char) : Bool :=
  name == ['*'] || (!name.isEmpty && name.all fun c => isToolRest c || c == '-')

/-- Splits `tool(argument)`. The argument is what stands between the first parenthesis and a
closing one at the very end, so it may hold parentheses of its own. -/
def splitCall (text : List Char) : Option (List Char × List Char) :=
  match text.dropWhile (· != '(') with
  | '(' :: body =>
    let tool := text.takeWhile (· != '(')
    if isToolName tool && body.getLast? == some ')' && body.dropLast != [] then
      some (tool, body.dropLast)
    else none
  | _ => none

/-- Splits `tool:name`. -/
def splitSubcommand (text : List Char) : Option (List Char × List Char) :=
  match text.dropWhile (· != ':') with
  | ':' :: name =>
    let tool := text.takeWhile (· != ':')
    if isToolName tool && isSubcommandName name then some (tool, name) else none
  | _ => none

/-- The tool whose arguments may end in a colon and a star. -/
def exemptTool : List Char := ['M', 'C', 'P']

def colonStar : List Char := [':', '*']

def isDeprecated (tool argument : List Char) : Bool :=
  tool != exemptTool && colonStar.isSuffixOf argument

/-- What is wrong with a text before its shape is looked at. -/
def lineFault? (text : List Char) : Option Fault :=
  if text.any (fun c => c == '\n' || c == '\r') then some .newline
  else if maxLength < text.length then some .tooLong
  else none

def parse (pattern : String) : Except Fault Form :=
  let text := pattern.toList
  if text.all isBlank then .error .empty
  else match lineFault? text with
    | some fault => .error fault
    | none => match splitCall text with
      | some (tool, argument) =>
        if isDeprecated tool argument then .error .deprecatedColonStar
        else .ok (.call (.ofList tool) (.ofList argument))
      | none => match splitSubcommand text with
        | some (tool, name) => .ok (.subcommand (.ofList tool) (.ofList name))
        | none => if isToolName text then .ok (.bare pattern) else .error (.invalidFormat pattern)

/-- The fault of a pattern that is not accepted. -/
def fault? (pattern : String) : Option Fault :=
  match parse pattern with
  | .ok _ => none
  | .error fault => some fault

def isValid (pattern : String) : Bool :=
  (fault? pattern).isNone

end PermissionRules.Pattern
