import PermissionRules.Proofs.Run.Saving

/-! Dry runs. A run of fixes that writes nothing ends as the run that writes does, and reports the same of
every document but whether it was written; in the text this shows in the status behind the summaries of
the documents with changes for a file, and nowhere else. -/
namespace PermissionRules

namespace Report
open Document Rules

namespace DocumentFix

/-- The fix has changes, and they are for a file. -/
def pending (fix : DocumentFix) : Bool :=
  fix.changed && fix.settings.isNone

/-- The lines of a fix with a given status behind the summary. -/
def linesWith (status : String) (fix : DocumentFix) : List String :=
  (fix.source ++ ": " ++ toString fix.migrated.length ++ " migrated, " ++
      toString fix.removed.length ++ " removed" ++ status) ::
    fix.migrated.map migrationLine ++ fix.removed.map removalLine ++
      fix.settings.toList.map (·.pretty)

theorem lines_eq (fix : DocumentFix) : fix.lines = fix.linesWith fix.status :=
  rfl

theorem lines_unwritten {fix : DocumentFix} (unwritten : fix.written = false) :
    fix.lines = fix.linesWith (if fix.pending then " (dry run, pass --write to save)" else "") := by
  rw [lines_eq, status, unwritten]
  rfl

theorem lines_written (fix : DocumentFix) : DocumentFix.lines { fix with written := fix.pending } =
    fix.linesWith (if fix.pending then " (written)" else "") := by
  have settled : status { fix with written := fix.pending } =
      if fix.pending then " (written)" else "" := by
    cases pends : fix.pending with
    | true => rfl
    | false =>
      have same : (fix.changed && fix.settings.isNone) = false := pends
      show (if (fix.changed && fix.settings.isNone) = true then _ else "") = ""
      rw [same]
      rfl
  rw [lines_eq, settled]
  rfl

end DocumentFix

/-- The text of fixes with a given status behind the summary of each one that has changes for a file. -/
def fixesWith (status : String) (fixes : List DocumentFix) : String :=
  unlines (fixes.flatMap fun fix => fix.linesWith (if fix.pending then status else ""))

end Report

namespace Run
open CommandLine Document Files Report Rules Settings

/-- What a dry run reports of a document, beside what the run that writes reports of it. -/
structure Foretells (loaded : Loaded) (tried done : DocumentFix) : Prop where
  source : done.source = tried.source
  migrated : done.migrated = tried.migrated
  removed : done.removed = tried.removed
  settings : done.settings = tried.settings
  unwritten : tried.written = false
  written : done.written = true ↔
    loaded.target.path?.isSome = true ∧ (tried.migrated ≠ [] ∨ tried.removed ≠ [])
  pending : done.written = tried.pending

theorem pending_fix (one : Loaded) (write : Bool) : (one.fix write).pending =
    ((repair one.document).hasChanges && one.target.path?.isSome) := by
  obtain ⟨target, document⟩ := one
  cases target with
  | file | «inline» => rfl

theorem fix_true (one : Loaded) :
    one.fix true = { one.fix false with written := (one.fix false).pending } := by
  have written : (one.savedTo? true).isSome = (one.fix false).pending := by
    rw [pending_fix, Loaded.savedTo?, Bool.true_and]
    cases (repair one.document).hasChanges <;> rfl
  rw [Loaded.fix, written]
  rfl

theorem foretells_fix (one : Loaded) : Foretells one (one.fix false) (one.fix true) where
  source := rfl
  migrated := rfl
  removed := rfl
  settings := rfl
  unwritten := rfl
  written := by
    have changes : (repair one.document).hasChanges = true ↔
        (one.fix false).migrated ≠ [] ∨ (one.fix false).removed ≠ [] := by
      simp [Repair.hasChanges, Loaded.fix]
    rw [fix_true, ← changes, and_comm]
    show (one.fix false).pending = true ↔ _
    rw [pending_fix, Bool.and_eq_true]
  pending := by rw [fix_true]

/-- The texts of both reports are one, up to the status. -/
theorem fixes_text (loaded : List Loaded) :
    Report.fixes .text (loaded.map (Loaded.fix false)) =
        fixesWith " (dry run, pass --write to save)" (loaded.map (Loaded.fix false)) ∧
      Report.fixes .text (loaded.map (Loaded.fix true)) =
        fixesWith " (written)" (loaded.map (Loaded.fix false)) := by
  constructor
  · apply congrArg unlines
    apply List.flatMap_congr
    intro fix member
    obtain ⟨one, _, rfl⟩ := List.mem_map.mp member
    exact DocumentFix.lines_unwritten rfl
  · apply congrArg unlines
    rw [List.flatMap_map, List.flatMap_map]
    apply List.flatMap_congr
    intro one _
    rw [fix_true]
    exact DocumentFix.lines_written (one.fix false)

/-- A run of fixes fails with the same error whether it writes or not, or it ends with a report both times.
Then the reports agree on every document, except that the run that writes has written those with changes
for a file, and the texts differ in the status of these documents alone. -/
theorem dryRun_foretells (store : Store) (environment : Environment) (selection : Selection) :
    (∃ error, ∀ format write,
      (run store environment ⟨format, .fix selection write⟩).result = .error error) ∨
    ∃ loaded, (load (sightOf store) environment selection).result = .ok loaded ∧
      (∀ format write, (run store environment ⟨format, .fix selection write⟩).result =
        .ok ⟨Report.fixes format (loaded.map (Loaded.fix write)), .clean⟩) ∧
      (∀ one ∈ loaded, Foretells one (one.fix false) (one.fix true)) ∧
      (run store environment ⟨.text, .fix selection false⟩).output =
        fixesWith " (dry run, pass --write to save)" (loaded.map (Loaded.fix false)) ∧
      (run store environment ⟨.text, .fix selection true⟩).output =
        fixesWith " (written)" (loaded.map (Loaded.fix false)) := by
  cases result : (load (sightOf store) environment selection).result with
  | error error =>
    apply Or.inl
    refine ⟨error, fun format write => ?_⟩
    rw [run_of_load_error result (.inr ⟨write, rfl⟩)]
  | ok loaded =>
    obtain ⟨dry, written⟩ := fixes_text loaded
    apply Or.inr
    refine ⟨loaded, rfl, fun format write => ?_, fun one _ => foretells_fix one, ?_, ?_⟩
    · rw [run_fix_eq result]
    · rw [run_fix_eq result, ← dry]
      rfl
    · rw [run_fix_eq result, ← written]
      rfl

end Run
end PermissionRules
