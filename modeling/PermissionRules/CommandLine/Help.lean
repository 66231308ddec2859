import PermissionRules.CommandLine.Option
import PermissionRules.Report.Format

/-! Help texts. -/
namespace PermissionRules.CommandLine
open Report

/-- What help is asked for: a level, or the command that prints help. -/
inductive Topic where
  | level (level : Level)
  | help
  deriving DecidableEq, Repr

def helpName : String := "help"
def helpAbout : String := "Print this message or the help of the given subcommand(s)"

def versionText : String :=
  unlines [programName ++ " " ++ programVersion]

/-- Rows of two columns; the first column is as wide as its widest cell. -/
def table (rows : List (String × String)) : List String :=
  let width := (rows.map fun (cell, _) => cell.length).max?.getD 0
  rows.map fun (cell, text) =>
    "  " ++ cell ++ .ofList (List.replicate (width - cell.length) ' ') ++ "  " ++ text

def Opt.cell (option : Opt) : String :=
  match option.letter? with
  | some letter => "-" ++ letter.toString ++ ", " ++ option.display
  | none => "    " ++ option.display

namespace Level

def about : Level → String
  | program => "Validation and migration of Claude-style permission rule patterns"
  | validate => "Validate one or more patterns"
  | migrate => "Rewrite a deprecated pattern into the current syntax"
  | check => "Report invalid patterns in settings documents"
  | fix => "Migrate deprecated patterns and drop invalid ones"

/-- The positional arguments, as usage shows them and with their description. -/
def argument? : Level → Option (String × String)
  | validate => some ("<PATTERN>...", "Patterns to validate (e.g. \"Bash(npm run *)\")")
  | migrate => some ("<PATTERN>", "")
  | program | check | fix => none

def usage (level : Level) : String :=
  let tail := (level.argument?.map fun (name, _) => " " ++ name).getD ""
  match level with
  | program => "Usage: " ++ programName ++ " [OPTIONS] <COMMAND>"
  | _ => "Usage: " ++ programName ++ " " ++ level.name ++ " [OPTIONS]" ++ tail

def optionTable (level : Level) : List String :=
  "Options:" :: table (level.options.map fun option => (option.cell, option.description))

def commandTable : List String :=
  "Commands:" :: table (commands.map (fun level => (level.name, level.about)) ++
    [(helpName, helpAbout)])

def argumentTable (level : Level) : List String :=
  match level.argument? with
  | some argument => "Arguments:" :: table [argument] ++ [""]
  | none => []

def help (level : Level) : List String :=
  [level.about, "", level.usage, ""] ++
    (if level = program then commandTable ++ [""] else []) ++ level.argumentTable ++
    level.optionTable

end Level

def helpText : Topic → String
  | .level level => unlines level.help
  | .help =>
    unlines ([helpAbout, "", "Usage: " ++ programName ++ " " ++ helpName ++ " [COMMAND]...", "",
      "Arguments:"] ++ table [("[COMMAND]...", "Print help for the subcommand(s)")])

end PermissionRules.CommandLine
