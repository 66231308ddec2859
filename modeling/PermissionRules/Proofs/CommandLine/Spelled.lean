import PermissionRules.Proofs.CommandLine.Attached

/-! Command lines that spell a command: its options stand in any order, each with its value attached, and
patterns come last, after a separator. Reading such a line gives the command. -/
namespace PermissionRules.CommandLine
open Report Settings

namespace Attached

def format? : Attached → Option Format
  | format chosen => some chosen
  | _ => none

def settings? : Attached → Option String
  | settings text => some text
  | _ => none

def names? : Attached → Option (List String)
  | scopes names => some names
  | _ => none

def projectDirectory? : Attached → Option String
  | projectDirectory path => some path
  | _ => none

def configDirectory? : Attached → Option String
  | configDirectory path => some path
  | _ => none

end Attached

/-! ### What options give -/

/-- The options give a format, a selection and the flag to write, and nothing more. Texts of settings are
given one by one, scopes by a list of their names, and everything else at most once. Between options of
different kinds any order will do. -/
structure Gives (options : List Attached) (format : Option Format) (selection : Selection) (write : Bool) :
    Prop where
  format : options.filterMap Attached.format? = format.toList
  settings : options.filterMap Attached.settings? = selection.settings
  scopes : Named selection.scopes (options.filterMap Attached.names?).flatten
  nonempty : [] ∉ options.filterMap Attached.names?
  projectDirectory : options.filterMap Attached.projectDirectory? = selection.projectDirectory.toList
  configDirectory : options.filterMap Attached.configDirectory? = selection.configDirectory.toList
  directories : "" ∉ selection.projectDirectory ∧ "" ∉ selection.configDirectory
  write : options.count .write = write.toNat

/-- What is given already and what the options are still to give make up the total. -/
structure AddsUp (given : Given) (options : List Attached) (total : Given) : Prop where
  format : given.format.toList ++ options.filterMap Attached.format? = total.format.toList
  settings : given.settings ++ options.filterMap Attached.settings? = total.settings
  scopes : ∃ later, Named later (options.filterMap Attached.names?).flatten ∧
    given.scopes ++ later = total.scopes
  nonempty : [] ∉ options.filterMap Attached.names?
  projectDirectory : given.projectDirectory.toList ++ options.filterMap Attached.projectDirectory? =
    total.projectDirectory.toList
  configDirectory : given.configDirectory.toList ++ options.filterMap Attached.configDirectory? =
    total.configDirectory.toList
  directories : "" ∉ total.projectDirectory ∧ "" ∉ total.configDirectory
  write : given.write.toNat + options.count .write = total.write.toNat
  patterns : given.patterns = total.patterns

theorem Gives.addsUp {options : List Attached} {format : Option Format} {selection : Selection} {write : Bool}
    (gives : Gives options format selection write) :
    AddsUp .nothing options ⟨format, selection.settings, selection.scopes, selection.projectDirectory,
      selection.configDirectory, write, []⟩ where
  format := gives.format
  settings := gives.settings
  scopes := ⟨selection.scopes, gives.scopes, rfl⟩
  nonempty := gives.nonempty
  projectDirectory := gives.projectDirectory
  configDirectory := gives.configDirectory
  directories := gives.directories
  write := (Nat.zero_add _).trans gives.write
  patterns := rfl

/-- What can be given once is not given before it comes, and given once it has come. -/
theorem eq_none_of_toList_append_cons {α : Type} {held total : Option α} {a : α} {later : List α}
    (sum : held.toList ++ a :: later = total.toList) :
    held = none ∧ total = some a ∧ (some a).toList ++ later = total.toList := by
  cases held with
  | none =>
    cases total with
    | none => cases sum
    | some b => exact ⟨rfl, congrArg some (List.cons.inj sum).1.symm, sum⟩
  | some held =>
    cases total with
    | none => cases sum
    | some b => simp at sum

theorem eq_of_toList_append_nil {α : Type} {held total : Option α}
    (sum : held.toList ++ [] = total.toList) : held = total := by
  simpa using congrArg List.head? sum

theorem Named.exists_append {scopes : List Scope} {first second : List String}
    (named : Named scopes (first ++ second)) :
    ∃ now later, Named now first ∧ Named later second ∧ now ++ later = scopes :=
  ⟨scopes.take first.length, scopes.drop first.length, List.forall₂_take_append _ _ _ named,
    List.forall₂_drop_append _ _ _ named, List.take_append_drop _ _⟩

variable {given total : Given} {option : Attached} {options : List Attached} {level : Level}

theorem AddsUp.eq_total (sum : AddsUp given [] total) : given = total := by
  have format := eq_of_toList_append_nil sum.format
  have settings := (List.append_nil _).symm.trans sum.settings
  obtain ⟨_, named, scopes⟩ := sum.scopes
  obtain rfl := List.forall₂_nil_right_iff.mp named
  rw [List.append_nil] at scopes
  have projectDirectory := eq_of_toList_append_nil sum.projectDirectory
  have configDirectory := eq_of_toList_append_nil sum.configDirectory
  have injective : ∀ a b : Bool, a.toNat = b.toNat → a = b := by decide
  have write := injective _ _ sum.write
  cases given
  cases total
  simp only [Given.mk.injEq]
  exact ⟨format, settings, scopes, projectDirectory, configDirectory, write, sum.patterns⟩

/-- The next option is taken, and what it gives moves to what is given. -/
theorem AddsUp.step (sum : AddsUp given (option :: options) total) :
    ∃ next, given.take option.opt (option.value?.getD "") = .ok next ∧ AddsUp next options total := by
  have write := sum.write
  rw [List.count_cons] at write
  -- An option has a part in one sum. The others do not see it, so they hold of the remaining options as they are.
  cases option with
  | format chosen =>
    obtain ⟨absent, _, format⟩ := eq_none_of_toList_append_cons sum.format
    exact ⟨_, take_format absent, { sum with format, write }⟩
  | settings text =>
    have settings : given.settings ++ text :: options.filterMap Attached.settings? = total.settings :=
      sum.settings
    rw [List.append_cons] at settings
    exact ⟨_, rfl, { sum with settings, write }⟩
  | scopes names =>
    obtain ⟨_, named, scopes⟩ := sum.scopes
    obtain ⟨now, later, first, second, rfl⟩ := named.exists_append
    rw [← List.append_assoc] at scopes
    have nonempty : [] ∉ names :: options.filterMap Attached.names? := sum.nonempty
    obtain ⟨filled, nonempty⟩ := List.ne_and_not_mem_of_not_mem_cons nonempty
    exact ⟨_, take_scopes filled.symm first, { sum with scopes := ⟨later, second, scopes⟩, nonempty, write }⟩
  | projectDirectory path =>
    obtain ⟨absent, present, projectDirectory⟩ := eq_none_of_toList_append_cons sum.projectDirectory
    have nonempty : path ≠ "" := by
      rintro rfl
      exact sum.directories.1 present
    exact ⟨_, take_projectDirectory absent nonempty, { sum with projectDirectory, write }⟩
  | configDirectory path =>
    obtain ⟨absent, present, configDirectory⟩ := eq_none_of_toList_append_cons sum.configDirectory
    have nonempty : path ≠ "" := by
      rintro rfl
      exact sum.directories.2 present
    exact ⟨_, take_configDirectory absent nonempty, { sum with configDirectory, write }⟩
  | write =>
    rw [beq_self_eq_true, if_pos rfl] at write
    have absent : given.write = false := by
      have bound := total.write.toNat_le
      exact Bool.toNat_eq_zero.mp (by omega)
    have write : true.toNat + options.count .write = total.write.toNat := by
      rw [absent, Bool.toNat_false] at write
      rw [Bool.toNat_true]
      omega
    exact ⟨_, take_write absent, { sum with write }⟩

theorem readCommand_options (sum : AddsUp given options total)
    (known : ∀ option ∈ options, option.opt ∈ level.options) (rest : List String) :
    readCommand level ⟨given, none⟩ (options.map Attached.argument ++ rest) =
      readCommand level ⟨total, none⟩ rest := by
  induction options generalizing given with
  | nil => rw [sum.eq_total]; rfl
  | cons option options ih =>
    obtain ⟨inLevel, known⟩ := List.forall_mem_cons.mp known
    obtain ⟨next, taken, sum⟩ := sum.step
    rw [List.map_cons, List.cons_append, readCommand_attached inLevel taken, ih sum known]

/-! ### Patterns after the separator -/

theorem readCommand_separator (given : Given) (level : Level) (patterns : List String) :
    readCommand level ⟨given, none⟩ ("--" :: patterns) =
      (patterns.foldlM (fun state pattern => state.readPositional level pattern) ⟨given, none⟩ >>=
        State.settle) := by
  rw [readCommand]
  rfl

/-- Patterns are taken in their order. -/
theorem readPositional_validate (given : Given) (patterns : List String) :
    patterns.foldlM (fun state pattern => state.readPositional .validate pattern) (⟨given, none⟩ : State) =
      .ok ⟨{ given with patterns := given.patterns ++ patterns }, none⟩ := by
  induction patterns generalizing given with
  | nil => rw [List.append_nil]; rfl
  | cons pattern patterns ih =>
    rw [List.append_cons]
    exact ih (given.addPattern pattern)

/-! ### Command lines -/

/-- The name of a command and what follows it, with the format where it is given there. -/
inductive SpelledCommand : Option Format → List String → Command → Prop where
  | validate {format : Option Format} {patterns : List String} (filled : patterns ≠ []) :
      SpelledCommand format
        ("validate" :: (format.toList.map Attached.format).map Attached.argument ++ "--" :: patterns)
        (.validate patterns)
  | migrate {format : Option Format} {pattern : String} :
      SpelledCommand format
        ("migrate" :: (format.toList.map Attached.format).map Attached.argument ++ ["--", pattern])
        (.migrate pattern)
  | check {format : Option Format} {options : List Attached} {selection : Selection}
      (gives : Gives options format selection false) :
      SpelledCommand format ("check" :: options.map Attached.argument) (.check selection)
  | fix {format : Option Format} {options : List Attached} {selection : Selection} {write : Bool}
      (gives : Gives options format selection write) :
      SpelledCommand format ("fix" :: options.map Attached.argument) (.fix selection write)

/-- The format stands before the name of the command or after it. -/
inductive Spelled : List String → Invocation → Prop where
  | before {format : Format} {arguments : List String} {command : Command}
      (spelled : SpelledCommand none arguments command) :
      Spelled ((Attached.format format).argument :: arguments) ⟨format, command⟩
  | after {format : Format} {arguments : List String} {command : Command}
      (spelled : SpelledCommand (some format) arguments command) : Spelled arguments ⟨format, command⟩

/-! ### Every command can be spelled -/

/-- Patterns are asked about, and no directory is empty. -/
def Command.Proper : Command → Prop
  | .validate patterns => patterns ≠ []
  | .migrate _ => True
  | .check selection | .fix selection _ => "" ∉ selection.projectDirectory ∧ "" ∉ selection.configDirectory

theorem named_label (scopes : List Scope) : Named scopes (scopes.map Scope.label) := by
  induction scopes with
  | nil => exact .nil
  | cons scope scopes ih => exact .cons (by cases scope <;> decide +kernel) ih

theorem count_write_map {α : Type} {make : α → Attached} (other : ∀ a, make a ≠ .write) (list : List α) :
    (list.map make).count .write = 0 := by
  simp [List.count_eq_zero, other]

theorem exists_gives (format : Option Format) {selection : Selection}
    (directories : "" ∉ selection.projectDirectory ∧ "" ∉ selection.configDirectory) (write : Bool) :
    ∃ options, Gives options format selection write := by
  obtain ⟨lists, named, nonempty⟩ :
      ∃ lists : List (List String), Named selection.scopes lists.flatten ∧ [] ∉ lists := by
    have labels := named_label selection.scopes
    cases every : selection.scopes.map Scope.label with
    | nil => exact ⟨[], by simpa [every] using labels, List.not_mem_nil⟩
    | cons label rest => exact ⟨[label :: rest], by simpa [every] using labels, by simp⟩
  refine ⟨format.toList.map .format ++ selection.settings.map .settings ++ lists.map .scopes ++
    selection.projectDirectory.toList.map .projectDirectory ++
    selection.configDirectory.toList.map .configDirectory ++ List.replicate write.toNat .write, ?_⟩
  constructor
  case scopes =>
    have flag : (List.replicate write.toNat Attached.write).filterMap Attached.names? = [] := by
      simp [Attached.names?]
    simpa [List.filterMap_map, Function.comp_def, Attached.names?, flag] using named
  case write => simp [count_write_map]
  all_goals
    simp [List.filterMap_map, Function.comp_def, Attached.format?, Attached.settings?, Attached.names?,
      Attached.projectDirectory?, Attached.configDirectory?, nonempty, directories]

theorem exists_spelled {invocation : Invocation} (proper : invocation.command.Proper) :
    ∃ arguments, Spelled arguments invocation := by
  obtain ⟨format, command⟩ := invocation
  cases command with
  | validate patterns => exact ⟨_, .after (.validate proper)⟩
  | migrate pattern => exact ⟨_, .after .migrate⟩
  | check selection =>
    obtain ⟨options, gives⟩ := exists_gives (some format) proper false
    exact ⟨_, .after (.check gives)⟩
  | fix selection write =>
    obtain ⟨options, gives⟩ := exists_gives (some format) proper write
    exact ⟨_, .after (.fix gives)⟩

/-! ### Reading them -/

theorem known_fix (options : List Attached) : ∀ option ∈ options, option.opt ∈ Level.fix.options := by
  intro option _
  cases option <;> simp [Attached.opt, Level.options, Level.selecting]

theorem Gives.known_check {format : Option Format} {selection : Selection}
    (gives : Gives options format selection false) : ∀ option ∈ options, option.opt ∈ Level.check.options := by
  intro option member
  have absent : .write ∉ options := List.count_eq_zero.mp gives.write
  cases option with
  | write => exact absurd member absent
  | format | settings | scopes | projectDirectory | configDirectory =>
    simp [Attached.opt, Level.options, Level.selecting]

theorem known_format (format : Option Format) (level : Level) :
    ∀ option ∈ format.toList.map Attached.format, option.opt ∈ level.options := by
  intro option member
  obtain ⟨chosen, _, rfl⟩ := List.mem_map.mp member
  cases level <;> exact List.mem_cons_self

theorem gives_format (format : Option Format) :
    Gives (format.toList.map Attached.format) format ⟨[], [], none, none⟩ false := by
  cases format with
  | none => exact ⟨rfl, rfl, .nil, List.not_mem_nil, rfl, rfl, by decide, rfl⟩
  | some chosen => exact ⟨rfl, rfl, .nil, List.not_mem_nil, rfl, rfl, by decide, rfl⟩

/-- The arguments after the name of a command are read by themselves. -/
theorem readProgram_name (level : Level) {arguments : List String} {inner : Given} {command : Command}
    (read : readCommand level .start arguments = .ok inner) (asked : inner.command level = .ok command)
    (outer : Given) : readProgram ⟨outer, none⟩ (level.name :: arguments) =
      .ok ⟨(inner.format <|> outer.format).getD .text, command⟩ := by
  have word : Piece.ofArgument level.name = .word level.name := by
    cases level <;> rfl
  have known : level.name ≠ helpName ∧ Level.command? level.name = some level := by
    cases level with
    | program => cases asked
    | validate | migrate | check | fix => exact ⟨by decide, rfl⟩
  rw [readProgram.eq_def]
  simp only [word, if_neg known.1, known.2, read]
  change inner.command level >>= _ = _
  rw [asked]
  rfl

/-- A format in front is kept until the command is known. -/
theorem readProgram_format (format : Format) (arguments : List String) :
    readProgram .start ((Attached.format format).argument :: arguments) =
      readProgram ⟨{ Given.nothing with format := some format }, none⟩ arguments := by
  rw [readProgram.eq_def]
  simp only [ofArgument_attached]
  cases format <;> rfl

theorem SpelledCommand.read {format : Option Format} {arguments : List String} {command : Command}
    (spelled : SpelledCommand format arguments command) (outer : Given) :
    readProgram ⟨outer, none⟩ arguments = .ok ⟨(format <|> outer.format).getD .text, command⟩ := by
  cases spelled with
  | @validate patterns filled =>
    have read := readCommand_options (gives_format format).addsUp (known_format format .validate)
      ("--" :: patterns)
    rw [readCommand_separator, readPositional_validate] at read
    exact readProgram_name .validate read (if_neg (by simpa using filled)) outer
  | @migrate pattern =>
    have read := readCommand_options (gives_format format).addsUp (known_format format .migrate) ["--", pattern]
    rw [readCommand_separator] at read
    exact readProgram_name .migrate read rfl outer
  | check gives =>
    have read := readCommand_options gives.addsUp gives.known_check []
    rw [List.append_nil] at read
    exact readProgram_name .check read rfl outer
  | fix gives =>
    have read := readCommand_options gives.addsUp (known_fix _) []
    rw [List.append_nil] at read
    exact readProgram_name .fix read rfl outer

/-- A command line is read as what it spells, whatever the order of its options and whatever their values. -/
theorem read_spelled {arguments : List String} {invocation : Invocation}
    (spelled : Spelled arguments invocation) : read arguments = .ok invocation := by
  cases spelled with
  | @before format arguments command spelled =>
    rw [CommandLine.read, readProgram_format]
    exact spelled.read { Given.nothing with format := some format }
  | after spelled => exact spelled.read .nothing

/-- Arguments in no order, with values that look like options and like names of commands, and scopes in
letters of either case. -/
def tangled : List String :=
  ["fix", "--settings=", "--write", "--setting-sources=GLOBAL,user_local,Local", "--settings=--write=a,b",
    "--output-format=json", "--config-dir=-", "--settings=check", "--project-dir=--"]

def untangled : Invocation :=
  ⟨.json, .fix ⟨["", "--write=a,b", "check"], [.user, .userLocal, .projectLocal], some "--", some "-"⟩ true⟩

theorem read_spelled_tangled : Spelled tangled untangled ∧ read tangled = .ok untangled := by
  have gives : Gives [.settings "", .write, .scopes ["GLOBAL", "user_local", "Local"], .settings "--write=a,b",
      .format .json, .configDirectory "-", .settings "check", .projectDirectory "--"] (some .json)
      ⟨["", "--write=a,b", "check"], [.user, .userLocal, .projectLocal], some "--", some "-"⟩ true :=
    { format := rfl, settings := rfl,
      scopes := .cons (by decide +kernel) (.cons (by decide +kernel) (.cons (by decide +kernel) .nil)),
      nonempty := by decide, projectDirectory := rfl, configDirectory := rfl, directories := by decide,
      write := rfl }
  have spelled : Spelled tangled untangled := .after (.fix gives)
  exact ⟨spelled, read_spelled spelled⟩

end PermissionRules.CommandLine
