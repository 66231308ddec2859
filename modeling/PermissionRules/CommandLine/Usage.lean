import PermissionRules.CommandLine.Help
import PermissionRules.Settings.Scope
import PermissionRules.Text.Terminal

/-! Faults of a command line. Their text is coloured, and what it quotes from the arguments may hold
sequences of its own, so that the plain text is what a terminal shows of it. -/
namespace PermissionRules.CommandLine
open Settings Text

inductive UsageFault where
  | noArguments
  | missingCommand
  | unknownCommand (name : String)
  | unknownArgument (argument : String)
  | missingPattern
  | missingValue (option : Opt)
  | unexpectedValue (option : Opt) (value : String)
  | repeated (option : Opt)
  | invalidFormat (value : String)
  | invalidScope (value : String)
  deriving DecidableEq, Repr

namespace UsageFault

def quote (colour text : String) : String :=
  "'" ++ colour ++ text ++ plainColour ++ "'"

def quoteInvalid (text : String) : String :=
  quote yellow text

def quoteOption (option : Opt) : String :=
  quote bold option.display

def invalidValue (option : Opt) (value : String) : String :=
  "invalid value " ++ quoteInvalid value ++ " for " ++ quoteOption option

def explanation : UsageFault → String
  | noArguments => Level.about .program
  | missingCommand =>
    quote bold programName ++ " requires a subcommand but one was not provided"
  | unknownCommand name => "unrecognized subcommand " ++ quoteInvalid name
  | unknownArgument argument => "unexpected argument " ++ quoteInvalid argument ++ " found"
  | missingPattern => "the following required arguments were not provided:"
  | missingValue option =>
    "a value is required for " ++ quoteOption option ++ " but none was supplied"
  | unexpectedValue option value =>
    "unexpected value " ++ quoteInvalid value ++ " for " ++ quote bold ("--" ++ option.name) ++
      " found; no more were expected"
  | repeated option => "the argument " ++ quoteOption option ++ " cannot be used multiple times"
  | invalidFormat value => invalidValue .outputFormat value
  | invalidScope value => invalidValue .settingSources value ++ ": " ++ Scope.unknownMessage value

/-- The text of a fault with the hint below it. An argument that ends inside a sequence takes the
beginning of the hint with it. -/
def text (fault : UsageFault) : String :=
  match fault with
  | noArguments => fault.explanation
  | fault =>
    red ++ "error:" ++ plainColour ++ " " ++ fault.explanation ++
      "\n\nFor more information, try " ++ quote bold "--help" ++ ".\n"

/-- The first line that a terminal shows; an argument of several lines is cut after its first. -/
def message (fault : UsageFault) : String :=
  let shown := visible .outside fault.text.toList
  let line := shown.takeWhile (· != '\n')
  .ofList (if line.length < shown.length && line.getLast? == some '\r' then line.dropLast else line)

end UsageFault
end PermissionRules.CommandLine
