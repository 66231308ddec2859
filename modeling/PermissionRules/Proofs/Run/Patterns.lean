import PermissionRules.Proofs.Report.Patterns
import PermissionRules.Proofs.Report.ReadBack
import PermissionRules.Proofs.Run.Diagnostics
import PermissionRules.Proofs.Run.Verdict

/-! The two commands on patterns. A pattern is valid, or it is deprecated and migrated, or it is refused for
another reason; the validation and the migration of a pattern tell this in their own ways, and the pattern
that it is migrated to is valid. -/
namespace PermissionRules.Run
open CommandLine Document Report Settings
open Files (Store)
open Pattern (Fault fault? isValid migrate?)

variable {store : Store} {environment : Environment} {pattern : String}

/-! ### What the commands return -/

theorem run_validate_eq (store : Store) (environment : Environment) (format : Format)
    (given : List String) : run store environment ⟨format, .validate given⟩ =
      ⟨[], .ok ⟨patterns format (given.map .ofPattern), .ofValid (given.all isValid)⟩, store⟩ := by
  have all : (given.map PatternCheck.ofPattern).all (·.isValid) = given.all isValid := by
    rw [List.all_map]
    rfl
  simp only [run, plan, validate, perform, all]

theorem run_migrate_eq (store : Store) (environment : Environment) (format : Format)
    (pattern : String) : run store environment ⟨format, .migrate pattern⟩ =
      ⟨if (migrate? pattern).isNone && format = .text then [unmigratedNotice pattern] else [],
        .ok ⟨migration format pattern (migrate? pattern), .ofValid (migrate? pattern).isSome⟩, store⟩ := by
  simp only [run, plan, migrate]
  split
  · rfl
  · rfl

/-- What a command that ends with a report returns. -/
def Outcome.Returns (outcome : Outcome) (status : Status) : Prop :=
  ∃ report, outcome.result = .ok ⟨report, status⟩

theorem output_validate (store : Store) (environment : Environment) (format : Format)
    (given : List String) : (run store environment ⟨format, .validate given⟩).output =
      patterns format (given.map .ofPattern) := by
  rw [run_validate_eq]
  rfl

theorem output_migrate (store : Store) (environment : Environment) (format : Format) (pattern : String) :
    (run store environment ⟨format, .migrate pattern⟩).output =
      migration format pattern (migrate? pattern) := by
  rw [run_migrate_eq]
  rfl

theorem returns_ok_iff {outcome : Outcome} {ending : Ending} {status : Status}
    (result : outcome.result = .ok ending) : outcome.Returns status ↔ ending.status = status := by
  rw [Outcome.Returns, result]
  constructor
  · rintro ⟨report, same⟩
    rw [Except.ok.inj same]
  · rintro rfl
    exact ⟨ending.report, rfl⟩

theorem validate_returns {format : Format} {given : List String} {status : Status} :
    (run store environment ⟨format, .validate given⟩).Returns status ↔
      Status.ofValid (given.all isValid) = status :=
  returns_ok_iff (congrArg Outcome.result (run_validate_eq store environment format given))

theorem migrate_returns {format : Format} {status : Status} :
    (run store environment ⟨format, .migrate pattern⟩).Returns status ↔
      Status.ofValid (migrate? pattern).isSome = status :=
  returns_ok_iff (congrArg Outcome.result (run_migrate_eq store environment format pattern))

theorem validate_one_returns_clean {format : Format} :
    (run store environment ⟨format, .validate [pattern]⟩).Returns .clean ↔ fault? pattern = none := by
  rw [validate_returns, ofValid_eq_clean, List.all_cons, List.all_nil, Bool.and_true]
  exact Option.isNone_iff_eq_none

theorem migrate_returns_clean {format : Format} :
    (run store environment ⟨format, .migrate pattern⟩).Returns .clean ↔ migrate? pattern ≠ none := by
  rw [migrate_returns, ofValid_eq_clean, Option.isSome_iff_ne_none]

/-- What the check of a pattern and its migration have found. -/
inductive Answered (pattern : String) : Prop where
  | valid : fault? pattern = none → PatternCheck.ofPattern pattern = ⟨pattern, none, none⟩ →
      migrate? pattern = none → Answered pattern
  | deprecated {migrated} :
      PatternCheck.ofPattern pattern = ⟨pattern, some .deprecatedColonStar, some migrated⟩ →
      migrate? pattern = some migrated → fault? migrated = none → Answered pattern
  | refused {fault} : fault? pattern = some fault →
      PatternCheck.ofPattern pattern = ⟨pattern, some fault, none⟩ →
      migrate? pattern = none → Answered pattern

theorem ofPattern_of_fault?_eq_none (valid : fault? pattern = none) :
    PatternCheck.ofPattern pattern = ⟨pattern, none, none⟩ := by
  rw [PatternCheck.ofPattern, valid]
  rfl

theorem answered (pattern : String) : Answered pattern := by
  cases found : fault? pattern with
  | none =>
    have unmigrated : migrate? pattern = none := by
      rw [← Option.not_isSome_iff_eq_none, Pattern.migrate?_isSome_iff, found]
      exact nofun
    exact .valid found (ofPattern_of_fault?_eq_none found) unmigrated
  | some fault =>
    have check : PatternCheck.ofPattern pattern = ⟨pattern, some fault, migrate? pattern⟩ := by
      rw [PatternCheck.ofPattern, found]
      rfl
    by_cases old : fault = .deprecatedColonStar
    · subst old
      obtain ⟨migrated, rewritten⟩ := Option.isSome_iff_exists.mp (Pattern.migrate?_isSome_iff.mpr found)
      have valid := Option.isNone_iff_eq_none.mp (Pattern.isValid_of_migrate? rewritten)
      rw [rewritten] at check
      exact .deprecated check rewritten valid
    · have unmigrated := Pattern.migrate?_eq_none found old
      rw [unmigrated] at check
      exact .refused found check unmigrated

/-! ### What the reports show -/

/-- A report shows one check, as its text or as the one entry of what it is read as. -/
def Shows (format : Format) (report : String) (check : PatternCheck) : Prop :=
  match format with
  | .text => report = patternText check
  | .json => ∃ entry, ReadsAs report (.array [entry]) ∧ HasFields check.fields entry

/-- A report shows the migration of a pattern, as a line of its own if there is one, or as an object. -/
def ShowsMigration (format : Format) (report pattern : String) (migrated : Option String) : Prop :=
  match format with
  | .text => report = migrated.elim "" (· ++ "\n")
  | .json => ∃ entry, ReadsAs report entry ∧ HasFields (migratedFields pattern migrated) entry

theorem shows_patterns (format : Format) (check : PatternCheck) :
    Shows format (patterns format [check]) check := by
  cases format with
  | text => rw [Shows, patterns_text, List.map_singleton, String.join_cons, String.join_nil, String.append_empty]
  | json =>
    obtain ⟨entries, read, each⟩ := patterns_readsAs [check]
    obtain ⟨entry, others, fields, none, rfl⟩ := List.forall₂_cons_left_iff.mp each
    obtain rfl := List.forall₂_nil_left_iff.mp none
    exact ⟨entry, read, fields⟩

theorem shows_migration (format : Format) (pattern : String) (migrated : Option String) :
    ShowsMigration format (migration format pattern migrated) pattern migrated := by
  cases format with
  | text =>
    rw [ShowsMigration, migration, render]
    cases migrated with
    | none => rfl
    | some migrated => rw [Option.toList_some, unlines_cons, unlines_nil, String.append_empty, Option.elim_some]
  | json => exact migration_readsAs pattern migrated

theorem surrounded_ne {label colon message ending : String} (text : String)
    (short : ending.length ≤ label.length + colon.length) (filled : 0 < message.length) :
    label ++ text ++ colon ++ message ≠ text ++ ending := by
  intro same
  have lengths := congrArg String.length same
  simp only [String.length_append] at lengths
  omega

theorem noMigration_ne_alreadyValid (pattern : String) (fault : Fault) :
    (Notice.noMigration pattern fault).message ≠ (Notice.alreadyValid pattern).message :=
  surrounded_ne pattern (by decide) (length_message_pos fault)

theorem get?_error {check : PatternCheck} {entry : Value} (fields : HasFields check.fields entry) :
    entry.get? "error" = some (textOrNull (check.fault.map (·.message))) :=
  (fields _ _).mpr (by simp [PatternCheck.fields])

/-- A report that shows a pattern as deprecated shows no other fault. -/
theorem deprecated_of_shows {format : Format} {report : String} {check : PatternCheck}
    {suggestion : Option String} (told : Shows format report check)
    (told' : Shows format report ⟨check.pattern, some .deprecatedColonStar, suggestion⟩) :
    check.fault = some .deprecatedColonStar := by
  cases format with
  | text => exact deprecated_of_patternText (told.symm.trans told')
  | json =>
    obtain ⟨entry, read, fields⟩ := told
    obtain ⟨entry', read', fields'⟩ := told'
    have same := Except.ok.inj (read.line.symm.trans read'.line)
    obtain ⟨rfl, _⟩ := List.cons.inj (Value.array.inj same)
    have errors := Option.some.inj ((get?_error fields).symm.trans (get?_error fields'))
    cases found : check.fault with
    | none =>
      rw [found] at errors
      contradiction
    | some fault =>
      rw [found] at errors
      have messages : fault.message = Fault.deprecatedColonStar.message := Value.string.inj errors
      rw [eq_deprecated_of_message (congrArg (· ++ "") messages)]

/-! ### Agreement -/

/-- The validation and the migration of a pattern, in any formats. -/
structure Agreement (store : Store) (environment : Environment) (pattern : String) : Prop where
  clean : ∀ format format', (run store environment ⟨format, .migrate pattern⟩).Returns .clean ↔
    ∃ suggestion, Shows format' (run store environment ⟨format', .validate [pattern]⟩).output
      ⟨pattern, some .deprecatedColonStar, suggestion⟩
  migrated : ∀ format, (run store environment ⟨format, .migrate pattern⟩).Returns .clean →
    ∃ migrated, ∀ format',
      Shows format' (run store environment ⟨format', .validate [pattern]⟩).output
        ⟨pattern, some .deprecatedColonStar, some migrated⟩ ∧
      ShowsMigration format' (run store environment ⟨format', .migrate pattern⟩).output pattern
        (some migrated) ∧
      (run store environment ⟨format', .validate [migrated]⟩).Returns .clean ∧
      Shows format' (run store environment ⟨format', .validate [migrated]⟩).output ⟨migrated, none, none⟩
  unmigrated : ∀ format, ¬ (run store environment ⟨format, .migrate pattern⟩).Returns .clean →
    (run store environment ⟨format, .migrate pattern⟩).Returns .findings ∧
    ShowsMigration format (run store environment ⟨format, .migrate pattern⟩).output pattern none
  /-- The only warning, and the validation that it repeats. -/
  warning : ¬ (run store environment ⟨.text, .migrate pattern⟩).Returns .clean →
    ∃ message, (∀ terminal, (run store environment ⟨.text, .migrate pattern⟩).diagnostics terminal =
        warningText terminal message) ∧
      ∀ format,
        (message = pattern ++ " is already valid" ↔
          (run store environment ⟨format, .validate [pattern]⟩).Returns .clean) ∧
        (¬ (run store environment ⟨format, .validate [pattern]⟩).Returns .clean →
          ∃ fault, message = "No rewrite for " ++ pattern ++ ": " ++ fault.message ∧
            Shows format (run store environment ⟨format, .validate [pattern]⟩).output
              ⟨pattern, some fault, none⟩)

/-- The validation of a list of patterns, from that of each of them alone. -/
structure Joint (store : Store) (environment : Environment) (given : List String) : Prop where
  clean : ∀ format format', (run store environment ⟨format, .validate given⟩).Returns .clean ↔
    ∀ pattern ∈ given, (run store environment ⟨format', .validate [pattern]⟩).Returns .clean
  text : (run store environment ⟨.text, .validate given⟩).output = String.join (given.map fun pattern =>
    (run store environment ⟨.text, .validate [pattern]⟩).output)

theorem shows_validate (format : Format) (pattern : String) :
    Shows format (run store environment ⟨format, .validate [pattern]⟩).output (.ofPattern pattern) := by
  rw [output_validate]
  exact shows_patterns format _

theorem showsMigration_migrate (format : Format) (pattern : String) :
    ShowsMigration format (run store environment ⟨format, .migrate pattern⟩).output pattern
      (migrate? pattern) := by
  rw [output_migrate]
  exact shows_migration format pattern _

theorem diagnostics_migrate (unmigrated : migrate? pattern = none) (terminal : Bool) :
    (run store environment ⟨.text, .migrate pattern⟩).diagnostics terminal =
      (unmigratedNotice pattern).render terminal := by
  have notices : (run store environment ⟨.text, .migrate pattern⟩).allNotices =
      [unmigratedNotice pattern] := by
    rw [run_migrate_eq, unmigrated]
    rfl
  rw [Outcome.diagnostics, notices, List.map_singleton, String.join_cons, String.join_nil,
    String.append_empty]

theorem agreement (store : Store) (environment : Environment) (pattern : String) :
    Agreement store environment pattern where
  clean := by
    intro format format'
    rw [migrate_returns_clean]
    constructor
    · intro rewritten
      cases answered pattern with
      | valid _ _ unmigrated | refused _ _ unmigrated => contradiction
      | deprecated check => exact ⟨_, check ▸ shows_validate format' pattern⟩
    · rintro ⟨suggestion, told⟩
      have deprecated := deprecated_of_shows (shows_validate format' pattern) told
      exact Option.isSome_iff_ne_none.mp (Pattern.migrate?_isSome_iff.mpr deprecated)
  migrated := by
    intro format rewritten
    rw [migrate_returns_clean] at rewritten
    cases answered pattern with
    | valid _ _ unmigrated | refused _ _ unmigrated => contradiction
    | @deprecated migrated check found valid =>
      refine ⟨migrated, fun format' => ⟨check ▸ shows_validate format' pattern,
        found ▸ showsMigration_migrate format' pattern, validate_one_returns_clean.mpr valid, ?_⟩⟩
      exact ofPattern_of_fault?_eq_none valid ▸ shows_validate format' migrated
  unmigrated := by
    intro format refused
    rw [migrate_returns_clean, not_not] at refused
    constructor
    · rw [migrate_returns, refused]
      rfl
    · exact refused ▸ showsMigration_migrate format pattern
  warning := by
    intro refused
    rw [migrate_returns_clean, not_not] at refused
    have told : ∀ terminal, (run store environment ⟨.text, .migrate pattern⟩).diagnostics terminal =
        (unmigratedNotice pattern).render terminal := diagnostics_migrate refused
    rw [unmigratedNotice] at told
    cases answered pattern with
    | valid found =>
      rw [found] at told
      refine ⟨_, fun terminal => (told terminal).trans (render_warning rfl terminal), ?_⟩
      intro format
      have clean : (run store environment ⟨format, .validate [pattern]⟩).Returns .clean :=
        validate_one_returns_clean.mpr found
      exact ⟨iff_of_true rfl clean, fun faulty => absurd clean faulty⟩
    | deprecated _ rewritten =>
      rw [refused] at rewritten
      contradiction
    | @refused fault found check =>
      rw [found] at told
      refine ⟨_, fun terminal => (told terminal).trans (render_warning rfl terminal), ?_⟩
      intro format
      have faulty : ¬ (run store environment ⟨format, .validate [pattern]⟩).Returns .clean := by
        rw [validate_one_returns_clean, found]
        exact nofun
      exact ⟨iff_of_false (noMigration_ne_alreadyValid pattern fault) faulty,
        fun _ => ⟨fault, rfl, check ▸ shows_validate format pattern⟩⟩

theorem joint (store : Store) (environment : Environment) (given : List String) :
    Joint store environment given where
  clean := by
    intro format format'
    simp only [validate_one_returns_clean]
    rw [validate_returns, ofValid_eq_clean, List.all_eq_true]
    exact forall₂_congr fun pattern _ => Option.isNone_iff_eq_none
  text := by
    simp only [output_validate, List.map_singleton, patterns_text, List.map_map, String.join_cons,
      String.join_nil, String.append_empty]
    rfl

/-- The two commands agree on each pattern, and the validation of many patterns is that of each of them. -/
theorem validate_migrate_agree (store : Store) (environment : Environment) :
    (∀ pattern, Agreement store environment pattern) ∧ ∀ given, Joint store environment given :=
  ⟨agreement store environment, joint store environment⟩

/-- A deprecated call with nothing before the colon, in a directory without files. -/
theorem validate_migrate_agree_bare :
    (run (.empty []) ⟨none, none, "/"⟩ ⟨.json, .migrate "Bash(:*)"⟩).Returns .clean ∧
    ∃ migrated,
      (run (.empty []) ⟨none, none, "/"⟩ ⟨.text, .migrate "Bash(:*)"⟩).output = migrated ++ "\n" ∧
      (run (.empty []) ⟨none, none, "/"⟩ ⟨.text, .validate [migrated]⟩).output =
        "ok       " ++ migrated ++ "\n" := by
  have clean : (run (.empty []) ⟨none, none, "/"⟩ ⟨.json, .migrate "Bash(:*)"⟩).Returns .clean :=
    migrate_returns_clean.mpr (by decide)
  obtain ⟨migrated, told⟩ := ((validate_migrate_agree _ _).1 "Bash(:*)").migrated .json clean
  obtain ⟨_, line, _, ok⟩ := told .text
  exact ⟨clean, migrated, line, ok⟩

end PermissionRules.Run
