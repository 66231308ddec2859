import Mathlib.Data.List.Forall2
import PermissionRules.CommandLine.Reader
import PermissionRules.Proofs.Text.Runs

/-! Options with their values attached. Each is one argument, which is read without a look at the arguments
around it, whatever the value is. -/
namespace PermissionRules

namespace Settings.Scope

/-- The names of a scope in small letters. -/
def names : Scope → List String
  | user => ["user", "global"]
  | userLocal => ["user-local", "user_local"]
  | project => ["project"]
  | projectLocal => ["local"]

theorem ofName?_eq_some_iff {name : String} {scope : Scope} :
    ofName? name = some scope ↔ name.toLower ∈ scope.names := by
  unfold ofName?
  constructor
  · intro read
    split at read
    case h_7 => cases read
    all_goals
      obtain rfl := Option.some.inj read
      rename_i lowered
      rw [lowered]
      simp only [names, List.mem_cons, true_or, or_true]
  · intro named
    cases scope with
    | user | userLocal =>
      rcases List.mem_pair.mp named with same | same
      · rw [same]; rfl
      · rw [same]; rfl
    | project | projectLocal => rw [List.mem_singleton.mp named]; rfl

/-- No name has a comma in it, in letters of either case. -/
theorem comma_not_mem {name : String} {scope : Scope} (named : name.toLower ∈ scope.names) :
    ',' ∉ name.toList := by
  intro member
  have lowered : ',' ∈ name.toLower.toList := by
    change ',' ∈ (name.map Char.toLower).toList
    rw [String.toList_map]
    exact List.mem_map_of_mem member
  have plain : ∀ name ∈ scope.names, ',' ∉ name.toList := by
    cases scope with
    | user | userLocal | project | projectLocal => decide
  exact plain _ named lowered

end Settings.Scope

namespace CommandLine
open Report Settings Text

/-! ### Names between commas -/

theorem splitCommas_eq (text : List Char) : splitCommas text = text.splitOn ',' := by
  induction text with
  | nil => rfl
  | cons c text ih =>
    obtain ⟨piece, pieces, split⟩ := List.exists_cons_of_ne_nil (List.splitOn_ne_nil ',' text)
    rw [splitCommas, List.splitOn_cons_eq_if_modifyHead, ih, split]
    simp only [beq_iff_eq, List.modifyHead_cons]

/-- A text of names, one comma between each two, is cut into the names. -/
theorem splitCommas_intercalate {names : List String} (filled : names ≠ [])
    (plain : ∀ name ∈ names, ',' ∉ name.toList) :
    splitCommas (",".intercalate names).toList = names.map String.toList := by
  rw [splitCommas_eq, String.toList_intercalate]
  refine List.splitOn_intercalate ',' ?_ (by simpa using filled)
  simpa using plain

/-- At the place of each scope stands one of its names, in letters of either case. -/
def Named (scopes : List Scope) (names : List String) : Prop :=
  List.Forall₂ (fun scope name => name.toLower ∈ scope.names) scopes names

theorem Named.comma_not_mem {scopes : List Scope} {names : List String} (named : Named scopes names) :
    ∀ name ∈ names, ',' ∉ name.toList := by
  induction named with
  | nil => exact fun _ member => absurd member List.not_mem_nil
  | cons named _ ih => exact List.forall_mem_cons.mpr ⟨Scope.comma_not_mem named, ih⟩

theorem readScopes_intercalate {scopes : List Scope} {names : List String} (filled : names ≠ [])
    (named : Named scopes names) : readScopes (",".intercalate names) = .ok scopes := by
  rw [readScopes, splitCommas_intercalate filled named.comma_not_mem]
  clear filled
  induction named with
  | nil => rfl
  | cons named _ ih =>
    rw [List.map_cons, List.mapM_cons, ih, String.ofList_toList, Scope.ofName?_eq_some_iff.mpr named]
    rfl

/-! ### One option, one argument -/

/-- An option with its value. -/
inductive Attached where
  | format (format : Format)
  | settings (text : String)
  | scopes (names : List String)
  | projectDirectory (path : String)
  | configDirectory (path : String)
  | write
  deriving DecidableEq

def formatName : Format → String
  | .text => "text"
  | .json => "json"

namespace Attached

/-- The argument that gives an option. -/
def argument : Attached → String
  | format chosen => "--output-format=" ++ formatName chosen
  | settings text => "--settings=" ++ text
  | scopes names => "--setting-sources=" ++ ",".intercalate names
  | projectDirectory path => "--project-dir=" ++ path
  | configDirectory path => "--config-dir=" ++ path
  | write => "--write"

def opt : Attached → Opt
  | format _ => .outputFormat
  | settings _ => .settings
  | scopes _ => .settingSources
  | projectDirectory _ => .projectDir
  | configDirectory _ => .configDir
  | write => .write

def value? : Attached → Option String
  | format chosen => some (formatName chosen)
  | settings text => some text
  | scopes names => some (",".intercalate names)
  | projectDirectory path => some path
  | configDirectory path => some path
  | write => none

end Attached

theorem equals_not_mem_name (opt : Opt) : '=' ∉ opt.name.toList := by
  cases opt <;> decide

/-- The name of an option ends at the first equals sign; what follows is the value, whatever it is. -/
theorem ofArgument_append {start : String} (opt : Opt) (spelled : start = "--" ++ opt.name ++ "=")
    (value : String) : Piece.ofArgument (start ++ value) = .long opt.name (some value) := by
  have inside : ∀ c ∈ opt.name.toList, (c != '=') = true := by
    intro c member
    exact bne_iff_ne.mpr (ne_of_mem_of_not_mem member (equals_not_mem_name opt))
  have stop : ∀ c ∈ ('=' :: value.toList).head?, (c != '=') = false := by simp
  have before := takeWhile_run inside stop
  have after := dropWhile_run inside stop
  have text : (start ++ value).toList = '-' :: '-' :: (opt.name.toList ++ '=' :: value.toList) := by
    simp [spelled]
  -- A separator is two dashes and no more, so the first case asks whether something follows them.
  obtain ⟨c, rest, more⟩ : ∃ c rest, opt.name.toList ++ '=' :: value.toList = c :: rest :=
    List.exists_cons_of_ne_nil (by simp)
  rw [more] at text before after
  simp [Piece.ofArgument, text, before, after]

theorem ofArgument_attached (option : Attached) :
    Piece.ofArgument option.argument = .long option.opt.name option.value? := by
  cases option with
  | format => exact ofArgument_append .outputFormat (by decide) _
  | settings => exact ofArgument_append .settings (by decide) _
  | scopes => exact ofArgument_append .settingSources (by decide) _
  | projectDirectory => exact ofArgument_append .projectDir (by decide) _
  | configDirectory => exact ofArgument_append .configDir (by decide) _
  | write => rfl

variable {given : Given} {level : Level}

theorem readOption_attached (given : Given) (level : Level) (option : Attached) :
    State.readOption ⟨given, none⟩ level option.opt option.value? =
      (given.take option.opt (option.value?.getD "")).map (⟨·, none⟩) := by
  cases option <;> rfl

theorem option?_eq_some : ∀ level : Level, ∀ opt ∈ level.options, level.option? opt.name = some opt := by
  intro level
  cases level <;> decide

/-- An option of the level is taken as it stands. -/
theorem readCommand_attached {option : Attached} {next : Given} (known : option.opt ∈ level.options)
    (taken : given.take option.opt (option.value?.getD "") = .ok next) (rest : List String) :
    readCommand level ⟨given, none⟩ (option.argument :: rest) = readCommand level ⟨next, none⟩ rest := by
  rw [readCommand, ofArgument_attached]
  dsimp only
  rw [State.readDashed, option?_eq_some level _ known]
  dsimp only
  rw [readOption_attached, taken]
  rfl

/-! ### What an option does to what is given -/

theorem readFormat_name (chosen : Format) : readFormat (formatName chosen) = .ok chosen := by
  cases chosen <;> rfl

theorem readDirectory_of_ne {path : String} (nonempty : path ≠ "") (opt : Opt) :
    readDirectory opt path = .ok path := by
  rw [readDirectory, if_neg (by simpa using nonempty)]

theorem take_format {chosen : Format} (absent : given.format = none) :
    given.take .outputFormat (formatName chosen) = .ok { given with format := some chosen } := by
  simp only [Given.take, Given.holds, absent, readFormat_name]
  rfl

theorem take_scopes {scopes : List Scope} {names : List String} (filled : names ≠ [])
    (named : Named scopes names) : given.take .settingSources (",".intercalate names) =
      .ok { given with scopes := given.scopes ++ scopes } := by
  simp only [Given.take, Given.holds, readScopes_intercalate filled named]
  rfl

theorem take_projectDirectory {path : String} (absent : given.projectDirectory = none) (nonempty : path ≠ "") :
    given.take .projectDir path = .ok { given with projectDirectory := some path } := by
  simp only [Given.take, Given.holds, absent, readDirectory_of_ne nonempty]
  rfl

theorem take_configDirectory {path : String} (absent : given.configDirectory = none) (nonempty : path ≠ "") :
    given.take .configDir path = .ok { given with configDirectory := some path } := by
  simp only [Given.take, Given.holds, absent, readDirectory_of_ne nonempty]
  rfl

theorem take_write (absent : given.write = false) :
    given.take .write "" = .ok { given with write := true } := by
  simp only [Given.take, Given.holds, absent]
  rfl

end CommandLine
end PermissionRules
