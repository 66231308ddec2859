import PermissionRules.Proofs.Pattern.Migration
import PermissionRules.Rules.Repair

/-! Issues and repairs of a document agree. Each entry has one verdict, and what the entry's issue
announces is what becomes of it, because the deprecated patterns are those that are migrated and a
migration is never refused. -/
namespace PermissionRules.Rules
open Document

/-- The migration that an issue suggests. -/
def Issue.migration? (issue : Issue) : Option Migration :=
  issue.suggestion.map (⟨issue.pattern, ·, issue.category⟩)

/-- The removal of an entry whose issue suggests nothing. -/
def Issue.removal? (issue : Issue) : Option Removal :=
  match issue.suggestion with
  | none => some ⟨issue.pattern, issue.category, issue.fault⟩
  | some _ => none

/-- What may become of an entry: valid patterns stay, deprecated ones are migrated, and patterns with any
other fault are dropped, as is what is no text. -/
inductive Judged : Value → Verdict → Prop where
  | keep {pattern} : Pattern.fault? pattern = none → Judged (.string pattern) (.keep pattern)
  | migrate {pattern migrated} : Pattern.fault? pattern = some .deprecatedColonStar →
      Pattern.migrate? pattern = some migrated →
      Judged (.string pattern) (.migrate pattern migrated)
  | refuse {pattern fault} : Pattern.fault? pattern = some fault → fault ≠ .deprecatedColonStar →
      Judged (.string pattern) (.drop pattern (.pattern fault))
  | notText {entry} : (∀ text, entry ≠ .string text) → Judged entry (.drop entry.compact .notText)

theorem filter_migrate? (pattern : String) :
    (Pattern.migrate? pattern).filter Pattern.isValid = Pattern.migrate? pattern := by
  cases rewritten : Pattern.migrate? pattern with
  | none => rfl
  | some migrated => simp [Pattern.isValid_of_migrate? rewritten]

theorem judged_ofPattern (pattern : String) :
    Judged (.string pattern) (Verdict.ofPattern pattern) := by
  unfold Verdict.ofPattern
  rw [filter_migrate?]
  cases refused : Pattern.fault? pattern with
  | none => exact .keep refused
  | some fault =>
    by_cases old : fault = .deprecatedColonStar
    · subst fault
      obtain ⟨migrated, rewritten⟩ :=
        Option.isSome_iff_exists.mp (Pattern.migrate?_isSome_iff.mpr refused)
      rw [rewritten]
      exact .migrate refused rewritten
    · rw [Pattern.migrate?_eq_none refused old]
      exact .refuse refused old

theorem judged_ofEntry (entry : Value) : Judged entry (Verdict.ofEntry entry) := by
  cases entry with
  | string pattern => exact judged_ofPattern pattern
  | _ => exact .notText nofun

/-- The issue of an entry with a verdict. -/
def Verdict.issue? (category : Category) : Verdict → Option Issue
  | keep _ => none
  | migrate pattern migrated =>
    some ⟨pattern, category, .pattern .deprecatedColonStar, some migrated⟩
  | drop pattern fault => some ⟨pattern, category, fault, none⟩

theorem issue?_eq_verdict (category : Category) (entry : Value) :
    issue? category entry = (Verdict.ofEntry entry).issue? category := by
  have judged := judged_ofEntry entry
  generalize Verdict.ofEntry entry = verdict at judged
  cases judged with
  | keep valid => simp only [issue?, Value.string?, valid, Option.map_none, Verdict.issue?]
  | migrate old rewritten =>
    simp only [issue?, Value.string?, old, rewritten, Option.map_some, Verdict.issue?]
  | refuse refused current =>
    simp only [issue?, Value.string?, refused, Pattern.migrate?_eq_none refused current,
      Option.map_some, Verdict.issue?]
  | notText other =>
    cases entry with
    | string text => exact absurd rfl (other text)
    | _ => rfl

theorem bind_migration? (category : Category) (entry : Value) :
    (issue? category entry).bind Issue.migration? = (Verdict.ofEntry entry).migration? category := by
  rw [issue?_eq_verdict]
  cases Verdict.ofEntry entry with
  | keep | migrate | drop => rfl

theorem bind_removal? (category : Category) (entry : Value) :
    (issue? category entry).bind Issue.removal? = (Verdict.ofEntry entry).removal? category := by
  rw [issue?_eq_verdict]
  cases Verdict.ofEntry entry with
  | keep | migrate | drop => rfl

theorem issues_migration? (document : Value) :
    (issues document).filterMap Issue.migration? = (repair document).migrated := by
  simp only [issues, repair, List.filterMap_filterMap, bind_migration?]

theorem issues_removal? (document : Value) :
    (issues document).filterMap Issue.removal? = (repair document).removed := by
  simp only [issues, repair, List.filterMap_filterMap, bind_removal?]

/-- Each issue announces either a migration or a removal. -/
theorem length_announced (found : List Issue) :
    (found.filterMap Issue.migration?).length + (found.filterMap Issue.removal?).length =
      found.length := by
  induction found with
  | nil => rfl
  | cons issue rest ih =>
    obtain ⟨pattern, category, fault, suggestion⟩ := issue
    cases suggestion with
    | none | some migrated =>
      simp only [List.filterMap_cons, Issue.migration?, Issue.removal?, Option.map_none,
        Option.map_some, List.length_cons] at ih ⊢
      omega

theorem length_repaired (document : Value) :
    (repair document).migrated.length + (repair document).removed.length =
      (issues document).length := by
  rw [← issues_migration?, ← issues_removal?, length_announced]

theorem Repair.hasChanges_eq_false {repair : Repair} :
    repair.hasChanges = false ↔ repair.migrated = [] ∧ repair.removed = [] := by
  rw [hasChanges, Bool.or_eq_false_iff, Bool.not_eq_false', Bool.not_eq_false', List.isEmpty_iff,
    List.isEmpty_iff]

theorem hasChanges_iff (document : Value) :
    (repair document).hasChanges = true ↔ isClean document = false := by
  have sum := length_repaired document
  simp only [Repair.hasChanges, isClean, Bool.or_eq_true, Bool.not_eq_true', List.isEmpty_eq_false_iff,
    ← List.length_pos_iff]
  omega

/-- The issues of a document that carry a suggestion are its migrations, those without one are its
removals, in the same order, and nothing else is changed by a repair. -/
theorem repair_agrees_with_issues (document : Value) :
    (issues document).filterMap Issue.migration? = (repair document).migrated ∧
    (issues document).filterMap Issue.removal? = (repair document).removed ∧
    (repair document).migrated.length + (repair document).removed.length =
      (issues document).length ∧
    ((repair document).hasChanges = true ↔ isClean document = false) :=
  ⟨issues_migration? document, issues_removal? document, length_repaired document,
    hasChanges_iff document⟩

/-! ### Suggestions -/

theorem suggestion_of_issue? {category : Category} {entry : Value} {issue : Issue}
    (found : issue? category entry = some issue) :
    issue.suggestion.isSome = true ↔ issue.fault = .pattern .deprecatedColonStar := by
  rw [issue?_eq_verdict] at found
  have judged := judged_ofEntry entry
  generalize Verdict.ofEntry entry = verdict at judged found
  cases judged with
  | keep => contradiction
  | migrate =>
    obtain rfl := Option.some.inj found
    exact iff_of_true rfl rfl
  | refuse _ current =>
    obtain rfl := Option.some.inj found
    exact iff_of_false Bool.false_ne_true fun same => current (EntryFault.pattern.inj same)
  | notText =>
    obtain rfl := Option.some.inj found
    exact iff_of_false Bool.false_ne_true nofun

/-- The deprecated patterns are those that are migrated. Whatever is accepted is left alone, and so is what has
a fault of its line or no form; accordingly the issues that suggest something are those of deprecated
patterns. -/
theorem migration_iff_deprecated (pattern : String) (document : Value) :
    ((∃ migrated, Pattern.migrate? pattern = some migrated) ↔
      Pattern.parse pattern = .error .deprecatedColonStar) ∧
    (∀ form, Pattern.parse pattern = .ok form → Pattern.migrate? pattern = none) ∧
    (∀ fault, Pattern.parse pattern = .error fault → fault ≠ .deprecatedColonStar →
      Pattern.migrate? pattern = none) ∧
    (Pattern.Blank pattern ∨ Pattern.Broken pattern ∨ 500 < pattern.length ∨
        (∀ form, ¬ Pattern.Spells pattern form) →
      Pattern.migrate? pattern = none) ∧
    ∀ issue ∈ issues document,
      (issue.suggestion.isSome = true ↔ issue.fault = .pattern .deprecatedColonStar) := by
  refine ⟨?_, ?_, ?_, ?_, ?_⟩
  · rw [← Option.isSome_iff_exists, Pattern.migrate?_isSome_iff, Pattern.fault?_eq_some]
  · intro form accepted
    exact Pattern.migrate?_of_parse accepted
  · intro fault refused current
    exact Pattern.migrate?_eq_none (Pattern.fault?_eq_some.mpr refused) current
  · intro faulty
    exact Pattern.migrate?_of_faulty faulty
  · intro issue member
    obtain ⟨⟨category, entry⟩, _, found⟩ := List.mem_filterMap.mp member
    exact suggestion_of_issue? found

def asking (pattern : String) : Value :=
  .object [("permissions", .object [("ask", .array [.string pattern])])]

/-- The same argument is deprecated after one tool, not after another, and not on two lines. -/
theorem migration_iff_deprecated_emptyStart :
    (∃ migrated, Pattern.migrate? "Read(:*)" = some migrated) ∧
    Pattern.parse "MCP(:*)" = .ok (.call "MCP" ":*") ∧ Pattern.migrate? "MCP(:*)" = none ∧
    Pattern.parse "Read(\n:*)" = .error .newline ∧ Pattern.migrate? "Read(\n:*)" = none ∧
    ∃ issue ∈ issues (asking "Read(:*)"), issue.suggestion.isSome = true := by
  have old : Pattern.parse "Read(:*)" = .error .deprecatedColonStar := rfl
  have other : Pattern.parse "MCP(:*)" = .ok (.call "MCP" ":*") := rfl
  have broken : Pattern.parse "Read(\n:*)" = .error .newline := rfl
  obtain ⟨migrates, _, _, _, suggests⟩ := migration_iff_deprecated "Read(:*)" (asking "Read(:*)")
  obtain ⟨_, accepted, _⟩ := migration_iff_deprecated "MCP(:*)" .null
  obtain ⟨_, _, refused, _⟩ := migration_iff_deprecated "Read(\n:*)" .null
  refine ⟨migrates.mpr old, other, accepted _ other, broken, refused _ broken nofun, ?_⟩
  have found : ⟨"Read(:*)", .ask, .pattern .deprecatedColonStar, some "Read( *)"⟩ ∈
      issues (asking "Read(:*)") := by decide
  exact ⟨_, found, (suggests _ found).mpr rfl⟩

end PermissionRules.Rules
