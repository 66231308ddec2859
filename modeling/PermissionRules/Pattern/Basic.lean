/-! Rule patterns: their three forms, how a form is written, and why a text may fail to be one. -/
namespace PermissionRules.Pattern

inductive Form where
  /-- `tool(argument)` -/
  | call (tool argument : String)
  /-- `tool:name`, where the name may be `*` -/
  | subcommand (tool name : String)
  /-- `tool` -/
  | bare (tool : String)
  deriving DecidableEq, Repr

namespace Form

def tool : Form → String
  | call tool _ => tool
  | subcommand tool _ => tool
  | bare tool => tool

def argument? : Form → Option String
  | call _ argument => some argument
  | _ => none

def render : Form → String
  | call tool argument => tool ++ "(" ++ argument ++ ")"
  | subcommand tool name => tool ++ ":" ++ name
  | bare tool => tool

end Form

/-- The longest pattern, in characters. -/
def maxLength : Nat := 500

inductive Fault where
  | empty
  | newline
  | tooLong
  | deprecatedColonStar
  | invalidFormat (pattern : String)
  deriving DecidableEq, Repr

def Fault.message : Fault → String
  | empty => "Pattern must not be empty"
  | newline => "Pattern must not contain newline characters"
  | tooLong => "Pattern exceeds maximum length of " ++ toString maxLength ++ " characters"
  | deprecatedColonStar =>
    "The :* pattern inside Tool(...) is deprecated. " ++
      "Use space-wildcard instead: e.g., Bash(command *) not Bash(command:*)"
  | invalidFormat pattern => "Invalid pattern format: " ++ pattern

end PermissionRules.Pattern
