import PermissionRules.CommandLine.Invocation
import PermissionRules.CommandLine.Usage

/-! Answer the arguments of a command line. An option with its value attached is taken at once. A
value in an argument of its own is kept until something else that belongs to the level is read, or
its arguments end; only then can it be found wrong. -/
namespace PermissionRules.CommandLine
open Report Settings

/-- Why reading stops before a command is known. -/
inductive Halt where
  | fault (fault : UsageFault)
  | help (topic : Topic)
  | version
  deriving DecidableEq, Repr

/-- An argument by its shape. -/
inductive Piece where
  | separator
  | long (name : String) (value : Option String)
  | short (letter : Char)
  | word (text : String)
  deriving DecidableEq, Repr

def Piece.ofArgument (argument : String) : Piece :=
  match argument.toList with
  | ['-', '-'] => .separator
  | '-' :: '-' :: text =>
    match text.dropWhile (· != '=') with
    | '=' :: value => .long (.ofList (text.takeWhile (· != '='))) (some (.ofList value))
    | _ => .long (.ofList text) none
  | '-' :: letter :: _ => .short letter
  | _ => .word argument

/-- What the arguments of one level have given. -/
structure Given where
  format : Option Format
  settings : List String
  scopes : List Scope
  projectDirectory : Option String
  configDirectory : Option String
  write : Bool
  patterns : List String
  deriving DecidableEq, Repr

def Given.nothing : Given := ⟨none, [], [], none, none, false, []⟩

/-- An option whose value is due, or given but not yet looked at. -/
inductive Pending where
  | due (option : Opt)
  | given (option : Opt) (value : String)
  deriving DecidableEq, Repr

structure State where
  given : Given
  pending : Option Pending
  deriving DecidableEq, Repr

def State.start : State := ⟨.nothing, none⟩

abbrev Answer (α : Type) := Except Halt α

def refuse {α : Type} (fault : UsageFault) : Answer α :=
  .error (.fault fault)

def readFormat (value : String) : Answer Format :=
  match value with
  | "text" => .ok .text
  | "json" => .ok .json
  | "" => refuse (.missingValue .outputFormat)
  | value => refuse (.invalidFormat value)

/-- The pieces of a text between its commas. -/
def splitCommas : List Char → List (List Char)
  | [] => [[]]
  | c :: rest =>
    if c = ',' then [] :: splitCommas rest
    else match splitCommas rest with
      | [] => [[c]]
      | piece :: pieces => (c :: piece) :: pieces

def readScopes (value : String) : Answer (List Scope) :=
  (splitCommas value.toList).mapM fun name =>
    match Scope.ofName? (.ofList name) with
    | some scope => .ok scope
    | none => refuse (.invalidScope (.ofList name))

def readDirectory (option : Opt) (value : String) : Answer String :=
  if value.isEmpty then refuse (.missingValue option) else .ok value

namespace Given

/-- Whether an option that may be given once was given before. -/
def holds (given : Given) : Opt → Bool
  | .outputFormat => given.format.isSome
  | .projectDir => given.projectDirectory.isSome
  | .configDir => given.configDirectory.isSome
  | .write => given.write
  | .settings | .settingSources | .help | .version => false

/-- Takes an option with its value; the value of an option without one is not looked at. -/
def take (given : Given) (option : Opt) (value : String) : Answer Given :=
  if given.holds option then refuse (.repeated option)
  else match option with
    | .outputFormat => (readFormat value).map fun format => { given with format := some format }
    | .settings => .ok { given with settings := given.settings ++ [value] }
    | .settingSources =>
      (readScopes value).map fun scopes => { given with scopes := given.scopes ++ scopes }
    | .projectDir =>
      (readDirectory option value).map fun path => { given with projectDirectory := some path }
    | .configDir =>
      (readDirectory option value).map fun path => { given with configDirectory := some path }
    | .write => .ok { given with write := true }
    | .help | .version => .ok given

def addPattern (given : Given) (pattern : String) : Given :=
  { given with patterns := given.patterns ++ [pattern] }

end Given

namespace State

/-- Looks at the pending option. -/
def settle (state : State) : Answer Given :=
  match state.pending with
  | none => .ok state.given
  | some (.due option) => refuse (.missingValue option)
  | some (.given option value) => state.given.take option value

/-- Reads an option of the level. -/
def readOption (state : State) (level : Level) (option : Opt) (value : Option String) :
    Answer State :=
  match option.takesValue, value with
  | false, some value => refuse (.unexpectedValue option value)
  | false, none => do
    let given ← state.settle
    match option with
    | .help => .error (.help (.level level))
    | .version => .error .version
    | option => (given.take option "").map (⟨·, none⟩)
  | true, some value => do
    let given ← state.settle
    (given.take option value).map (⟨·, none⟩)
  | true, none => do
    let given ← state.settle
    .ok ⟨given, some (.due option)⟩

/-- Reads an argument that begins with a dash. -/
def readDashed (state : State) (level : Level) : Piece → Answer State
  | .long name value =>
    match level.option? name with
    | none => refuse (.unknownArgument ("--" ++ name))
    | some option => state.readOption level option value
  | .short letter =>
    match level.letter? letter with
    | none => refuse (.unknownArgument ("-" ++ letter.toString))
    | some option => state.readOption level option none
  | .separator | .word _ => .ok state

/-- Reads an argument by its position after the name of a command. -/
def readPositional (state : State) (level : Level) (argument : String) : Answer State :=
  let taken : Answer State := state.settle.map fun given => ⟨given.addPattern argument, none⟩
  match level with
  | .validate => taken
  | .migrate =>
    if state.given.patterns.isEmpty then taken else refuse (.unknownArgument argument)
  | .program | .check | .fix => refuse (.unknownArgument argument)

end State

/-- Reads the arguments of a command. -/
def readCommand (level : Level) (state : State) : List String → Answer Given
  | [] => state.settle
  | argument :: rest =>
    match Piece.ofArgument argument with
    | .separator => do
      let state ← rest.foldlM (fun state argument => state.readPositional level argument) state
      state.settle
    | .word text =>
      match state.pending with
      | some (.due option) => readCommand level ⟨state.given, some (.given option text)⟩ rest
      | _ => do
        let state ← state.readPositional level text
        readCommand level state rest
    | piece => do
      let state ← state.readDashed level piece
      readCommand level state rest

/-- The help that follows the name of the help command. -/
def readHelp : List String → Halt
  | [] => .help (.level .program)
  | name :: rest =>
    let topic := if name = helpName then some .help else (Level.command? name).map Topic.level
    match topic, rest with
    | none, _ => .fault (.unknownCommand name)
    | some topic, [] => .help topic
    | some _, name :: _ => .fault (.unknownCommand name)

def Given.selection (given : Given) : Selection :=
  ⟨given.settings, given.scopes, given.projectDirectory, given.configDirectory⟩

/-- The command that the arguments of its level describe. -/
def Given.command (given : Given) : Level → Answer Command
  | .validate =>
    if given.patterns.isEmpty then refuse .missingPattern else .ok (.validate given.patterns)
  | .migrate =>
    match given.patterns with
    | pattern :: _ => .ok (.migrate pattern)
    | [] => refuse .missingPattern
  | .check => .ok (.check given.selection)
  | .fix => .ok (.fix given.selection given.write)
  | .program => refuse .missingCommand

/-- What is said of an argument after the separator where a command is due. -/
def strayFault (argument : String) : UsageFault :=
  if argument = helpName || (Level.command? argument).isSome then .unknownArgument argument
  else .unknownCommand argument

/-- Reads the arguments before the name of the command, and then those of the command. -/
def readProgram (state : State) : List String → Answer Invocation
  | [] => do
    let given ← state.settle
    refuse (if given.format.isNone then .noArguments else .missingCommand)
  | argument :: rest =>
    match Piece.ofArgument argument with
    | .separator =>
      match rest with
      | [] => do
        let given ← state.settle
        refuse (if given.format.isNone then .noArguments else .missingCommand)
      | argument :: _ => refuse (strayFault argument)
    | .word text =>
      match state.pending with
      | some (.due option) => readProgram ⟨state.given, some (.given option text)⟩ rest
      | _ =>
        if text = helpName then .error (readHelp rest)
        else match Level.command? text with
          | none => refuse (.unknownCommand text)
          | some level => do
            let inner ← readCommand level .start rest
            let command ← inner.command level
            let outer ← state.settle
            .ok ⟨(inner.format <|> outer.format).getD .text, command⟩
    | piece => do
      let state ← state.readDashed .program piece
      readProgram state rest

/-- Reads a command line without the name of the program. -/
def read (arguments : List String) : Answer Invocation :=
  readProgram .start arguments

end PermissionRules.CommandLine
