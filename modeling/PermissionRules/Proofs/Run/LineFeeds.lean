import PermissionRules.Proofs.Report.Patterns
import PermissionRules.Proofs.Rules.Originals
import PermissionRules.Proofs.Run.Diagnostics

/-! Line feeds in the warnings of a run of fixes. The words of a warning have none, nor has the reason why a
target does not load or an entry is removed, and a pattern that is migrated is one line. What is left are the
names of targets and the patterns that are removed. -/
namespace PermissionRules

/-! ### Reasons -/

namespace Files.Store
variable {store : Store} {location : Location} {path : Path} {fault : Fault}

theorem fault_of_enter {name : Name} (fails : store.enter location name = .error fault) :
    fault ∈ [.nameTooLong, .notFound] := by
  unfold enter at fails
  split_ifs at fails with idle up long
  · simp [← Except.error.inj fails]
  · split at fails
    · contradiction
    · simp [← Except.error.inj fails]

theorem fault_of_follow {names : List Name} (fails : store.follow location names = .error fault) :
    fault ∈ [.nameTooLong, .notFound, .notADirectory] := by
  induction names generalizing location with
  | nil => contradiction
  | cons name names ih =>
    rw [follow] at fails
    split at fails
    case h_1 | h_2 => simp [← Except.error.inj fails]
    case h_3 =>
      split at fails
      case h_1 entered =>
        obtain rfl := Except.error.inj fails
        exact List.mem_append_left [_] (fault_of_enter entered)
      case h_2 => exact ih fails

theorem fault_of_pathFault? (found : pathFault? path = some fault) :
    fault ∈ [.nulInName, .nameTooLong, .notFound] := by
  unfold pathFault? at found
  split_ifs at found with nul empty long
  all_goals simp [← Option.some.inj found]

/-- Reading a file never fails with a message that is not known. -/
theorem fault_of_read (fails : store.read path = .error fault) :
    fault ∈ [.nulInName, .nameTooLong, .notFound, .notADirectory, .isADirectory] := by
  rw [read] at fails
  split at fails
  case h_1 lost =>
    obtain rfl := Except.error.inj fails
    rw [locate] at lost
    split at lost
    case h_1 found =>
      obtain rfl := Except.error.inj lost
      exact List.mem_append_left [_, _] (fault_of_pathFault? found)
    case h_2 => exact .tail _ (List.mem_append_left [_] (fault_of_follow lost))
  case h_2 =>
    split at fails
    · contradiction
    · simp [← Except.error.inj fails]
    · simp [← Except.error.inj fails]

end Files.Store

namespace Document
open Text

theorem unbroken_toString (n : Nat) : '\n' ∉ (toString n).toList :=
  fun member => absurd (Decimal.isDigit_of_mem_toString member) (by decide)

theorem unbroken_parseError (error : ParseError) : '\n' ∉ error.message.toList := by
  have reason : '\n' ∉ error.reason.message.toList := by
    cases error.reason <;> decide +kernel
  have atLine : '\n' ∉ " at line ".toList := by decide
  have atColumn : '\n' ∉ " column ".toList := by decide
  have line := unbroken_append (unbroken_append reason atLine) (unbroken_toString error.position.line)
  exact unbroken_append (unbroken_append line atColumn) (unbroken_toString error.position.column)

end Document

namespace Settings
open Files

theorem unbroken_parseDocument {text : String} {fault : LoadFault} (fails : parseDocument text = .error fault) :
    '\n' ∉ fault.message.toList := by
  rw [parseDocument] at fails
  cases refused : Document.parse text with
  | ok document =>
    rw [refused] at fails
    contradiction
  | error error =>
    rw [refused] at fails
    obtain rfl := Except.error.inj fails
    exact Document.unbroken_parseError error

theorem unbroken_decode {content : ByteArray} {fault : LoadFault} (fails : decode content = .error fault) :
    '\n' ∉ fault.message.toList := by
  rw [decode] at fails
  split at fails
  · exact unbroken_parseDocument fails
  · obtain rfl := Except.error.inj fails
    decide +kernel

theorem unbroken_loadFault {store : Store} {target : Target} {fault : LoadFault}
    (fails : target.load (sightOf store) = .error fault) : '\n' ∉ fault.message.toList := by
  cases target with
  | inline text => exact unbroken_parseDocument fails
  | file path scope =>
    rw [Target.load, Sight.document] at fails
    cases read : (sightOf store path).content with
    | ok content =>
      rw [read] at fails
      exact unbroken_decode fails
    | error reason =>
      rw [read] at fails
      obtain rfl := Except.error.inj fails
      have known := Store.fault_of_read read
      simp only [List.mem_cons, List.not_mem_nil, or_false] at known
      rcases known with rfl | rfl | rfl | rfl | rfl
      all_goals decide +kernel

end Settings

namespace Rules
open Document

theorem unbroken_of_removal? {entry : Value} {category : Category} {removal : Removal}
    (told : (Verdict.ofEntry entry).removal? category = some removal) :
    '\n' ∉ removal.fault.message.toList := by
  have judged := judged_ofEntry entry
  generalize Verdict.ofEntry entry = verdict at judged told
  cases judged with
  | keep | migrate => contradiction
  | refuse refused =>
    obtain rfl := Option.some.inj told
    exact Report.unbroken_message refused
  | notText =>
    have reason : '\n' ∉ EntryFault.notText.message.toList := by decide +kernel
    obtain rfl := Option.some.inj told
    exact reason

theorem unbroken_of_mem_removed {document : Value} {removal : Removal}
    (member : removal ∈ (repair document).removed) : '\n' ∉ removal.fault.message.toList := by
  obtain ⟨_, _, told⟩ := List.mem_filterMap.mp member
  exact unbroken_of_removal? told

end Rules

namespace Run
open Document Files Rules Settings

/-! ### Warnings -/

/-- No target that a run of fixes tells about has a line feed in its name, and no pattern that is removed has
one. -/
structure Unbroken (write : Bool) (skipped : List Skipped) (loaded : List Loaded) : Prop where
  skipped : ∀ one ∈ skipped, '\n' ∉ one.target.display.toList
  saved : ∀ one ∈ loaded, (one.fix write).written = true → '\n' ∉ one.target.display.toList ∧
    ∀ removal ∈ (repair one.document).removed, '\n' ∉ removal.pattern.toList

variable {target : Target} {write : Bool} {skipped : List Skipped} {loaded : List Loaded}

theorem unbroken_skipped_iff {one : Skipped} (fault : '\n' ∉ one.fault.message.toList) :
    '\n' ∉ one.warning.rest.toList ↔ '\n' ∉ one.target.display.toList := by
  simp [Skipped.warning, fault]

theorem unbroken_migration_iff {migration : Migration}
    (rewritten : Pattern.migrate? migration.pattern = some migration.migrated) :
    '\n' ∉ (migrationWarning target migration).rest.toList ↔ '\n' ∉ target.display.toList := by
  have pattern := (Pattern.migrate?_eq_some_iff.mp rewritten).1.lineFeed_not_mem
  have migrated := Report.unbroken_of_isValid (Pattern.isValid_of_migrate? rewritten)
  simp [migrationWarning, pattern, migrated]

theorem unbroken_removal_iff {removal : Removal} (fault : '\n' ∉ removal.fault.message.toList) :
    '\n' ∉ (removalWarning target removal).rest.toList ↔
      '\n' ∉ target.display.toList ∧ '\n' ∉ removal.pattern.toList := by
  have key : '\n' ∉ removal.category.key.toList := by
    cases removal.category <;> decide
  simp [removalWarning, fault, key]

theorem exists_change {document : Value} (changes : (repair document).hasChanges = true) :
    (∃ migration, migration ∈ (repair document).migrated) ∨
      ∃ removal, removal ∈ (repair document).removed := by
  simp only [Repair.hasChanges, Bool.or_eq_true, Bool.not_eq_true', List.isEmpty_eq_false_iff] at changes
  exact changes.imp (List.exists_mem_of_ne_nil _) (List.exists_mem_of_ne_nil _)

theorem unbroken_warnings_iff (one : Loaded) : (∀ warning ∈ one.warnings write, '\n' ∉ warning.rest.toList) ↔
    ((one.fix write).written = true → '\n' ∉ one.target.display.toList ∧
      ∀ removal ∈ (repair one.document).removed, '\n' ∉ removal.pattern.toList) := by
  rw [Loaded.warnings]
  split
  case isFalse kept => simp [kept]
  case isTrue saved =>
    obtain ⟨path, goes⟩ := Option.isSome_iff_exists.mp saved
    obtain ⟨_, changes, _⟩ := Loaded.savedTo?_eq_some.mp goes
    rw [forall_prop_of_true saved, List.forall_mem_append, List.forall_mem_map, List.forall_mem_map]
    constructor
    · rintro ⟨migrated, removed⟩
      have each : ∀ removal ∈ (repair one.document).removed,
          '\n' ∉ one.target.display.toList ∧ '\n' ∉ removal.pattern.toList := fun removal member =>
        (unbroken_removal_iff (unbroken_of_mem_removed member)).mp (removed removal member)
      refine ⟨?_, fun removal member => (each removal member).2⟩
      -- The document is saved, so that there is a warning with the name in it.
      rcases exists_change changes with ⟨migration, member⟩ | ⟨removal, member⟩
      · exact (unbroken_migration_iff (migrate?_of_mem_migrated member)).mp (migrated migration member)
      · exact (each removal member).1
    · rintro ⟨named, removed⟩
      constructor
      · intro migration member
        exact (unbroken_migration_iff (migrate?_of_mem_migrated member)).mpr named
      · intro removal member
        exact (unbroken_removal_iff (unbroken_of_mem_removed member)).mpr ⟨named, removed removal member⟩

/-- The warnings of a run of fixes are a line each if and only if the names and the removed patterns are. -/
theorem unbroken_fixWarnings_iff {store : Store}
    (fails : ∀ one ∈ skipped, one.target.load (sightOf store) = .error one.fault) :
    (∀ warning ∈ fixWarnings write skipped loaded, '\n' ∉ warning.rest.toList) ↔
      Unbroken write skipped loaded := by
  have told : (∀ one ∈ skipped, '\n' ∉ one.warning.rest.toList) ↔
      ∀ one ∈ skipped, '\n' ∉ one.target.display.toList :=
    forall₂_congr fun one member => unbroken_skipped_iff (unbroken_loadFault (fails one member))
  have saved : (∀ warning ∈ loaded.flatMap (Loaded.warnings write), '\n' ∉ warning.rest.toList) ↔
      ∀ one ∈ loaded, ∀ warning ∈ one.warnings write, '\n' ∉ warning.rest.toList := by
    simp only [List.mem_flatMap]
    constructor
    · intro each one member warning found
      exact each warning ⟨one, member, found⟩
    · rintro each warning ⟨one, member, found⟩
      exact each one member warning found
  rw [fixWarnings, List.forall_mem_append, List.forall_mem_map, told, saved]
  simp only [unbroken_warnings_iff]
  constructor
  · rintro ⟨skipped, saved⟩
    exact ⟨skipped, saved⟩
  · rintro ⟨skipped, saved⟩
    exact ⟨skipped, saved⟩

end Run
end PermissionRules
