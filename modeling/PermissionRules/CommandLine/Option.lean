/-! The levels of the command line and the options of each. -/
namespace PermissionRules.CommandLine

def programName : String := "permlint"
def programVersion : String := "0.1.0"

/-- Where arguments are read: before the name of a command or after it. -/
inductive Level where
  | program
  | validate
  | migrate
  | check
  | fix
  deriving DecidableEq, Repr

inductive Opt where
  | outputFormat
  | settings
  | settingSources
  | projectDir
  | configDir
  | write
  | help
  | version
  deriving DecidableEq, Repr

namespace Opt

def name : Opt → String
  | outputFormat => "output-format"
  | settings => "settings"
  | settingSources => "setting-sources"
  | projectDir => "project-dir"
  | configDir => "config-dir"
  | write => "write"
  | help => "help"
  | version => "version"

/-- What stands for the value of an option that takes one. -/
def valueName? : Opt → Option String
  | outputFormat => some "OUTPUT_FORMAT"
  | settings => some "FILE_OR_JSON"
  | settingSources => some "SOURCES"
  | projectDir | configDir => some "DIR"
  | write | help | version => none

def takesValue (option : Opt) : Bool :=
  option.valueName?.isSome

def letter? : Opt → Option Char
  | help => some 'h'
  | version => some 'V'
  | _ => none

/-- An option as help and faults show it. -/
def display (option : Opt) : String :=
  match option.valueName? with
  | some value => "--" ++ option.name ++ " <" ++ value ++ ">"
  | none => "--" ++ option.name

def description : Opt → String
  | outputFormat => "Output format [default: text] [possible values: text, json]"
  | settings => "Settings file path or inline JSON (can be specified multiple times)"
  | settingSources =>
    "Comma-separated settings scopes to discover when --settings is not given " ++
      "(user, user-local, project, local)"
  | projectDir => "Project root for project and local scopes (default: current directory)"
  | configDir => "User config directory (default: $CLAUDE_CONFIG_DIR or ~/.claude)"
  | write => "Write repaired documents back to their files"
  | help => "Print help"
  | version => "Print version"

end Opt

namespace Level

/-- The commands, in the order in which help lists them. -/
def commands : List Level := [validate, migrate, check, fix]

def name : Level → String
  | program => programName
  | validate => "validate"
  | migrate => "migrate"
  | check => "check"
  | fix => "fix"

def command? (name : String) : Option Level :=
  commands.find? (·.name = name)

def selecting : List Opt :=
  [.settings, .settingSources, .projectDir, .configDir]

def options : Level → List Opt
  | program => [.outputFormat, .help, .version]
  | validate | migrate => [.outputFormat, .help]
  | check => .outputFormat :: selecting ++ [.help]
  | fix => .outputFormat :: selecting ++ [.write, .help]

def option? (level : Level) (name : String) : Option Opt :=
  level.options.find? (·.name = name)

def letter? (level : Level) (letter : Char) : Option Opt :=
  level.options.find? (·.letter? = some letter)

end Level
end PermissionRules.CommandLine
