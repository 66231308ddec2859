import PermissionRules.Proofs.Run.Saving

/-! Fixing, then checking, over whole stores. After a run that wrote its fixes the same selection
loads the fixed documents, which have no issues and leave nothing to fix. -/
namespace PermissionRules.Run
open CommandLine Document Files Report Rules Settings

variable {store after : Store} {environment : Environment} {selection : Selection}
variable {loaded : List Loaded}

theorem run_check (loads : (load (sightOf store) environment selection).result = .ok loaded)
    (format : Format) :
    (run store environment ⟨format, .check selection⟩).result = (check format loaded).ending := by
  rw [run_check_eq loads]

/-- A run of fixes loads documents, fixes them and reports as planned. -/
theorem run_fix (loads : (load (sightOf store) environment selection).result = .ok loaded)
    (format : Format) :
    (run store environment ⟨format, .fix selection true⟩).result =
        (fix format true loaded).ending ∧
      Fixing store loaded (run store environment ⟨format, .fix selection true⟩).store := by
  rw [run_fix_eq loads]
  exact ⟨rfl, fixing_edits (load_of_mem loads)⟩

theorem load_of_run_fix {format : Format} {write : Bool} {ending : Ending}
    (fixed : (run store environment ⟨format, .fix selection write⟩).result = .ok ending) :
    ∃ loaded, (load (sightOf store) environment selection).result = .ok loaded := by
  cases loads : (load (sightOf store) environment selection).result with
  | ok loaded => exact ⟨loaded, rfl⟩
  | error error =>
    rw [run_of_load_error loads (.inr ⟨write, rfl⟩)] at fixed
    contradiction

/-- After fixes were written the selection loads the same targets with their fixed documents. -/
theorem load_after_fix
    (files : ∀ input ∈ selection.settings, (Target.ofInput input).path?.isSome = true)
    (loads : (load (sightOf store) environment selection).result = .ok loaded)
    (fixing : Fixing store loaded after) :
    (load (sightOf after) environment selection).result = .ok (loaded.map (Loaded.map fixed)) := by
  refine load_map (fun path => ?_) (fun target member => ?_) loads
  · simp only [sightOf, fixing.sameTree.exists?]
  · refine fixing.load (path?_isSome_of_mem_targets files member) fun document held => ?_
    exact (mem_load loads).mpr ⟨member, held⟩

theorem check_fixed (one : Loaded) :
    (one.map fixed).check.valid = true ∧ (one.map fixed).check.issues = [] :=
  ⟨isClean_fixed one.document, List.isEmpty_iff.mp (isClean_fixed one.document)⟩

theorem fix_fixed (one : Loaded) : ((one.map fixed).fix true).migrated = [] ∧
    ((one.map fixed).fix true).removed = [] ∧ ((one.map fixed).fix true).written = false := by
  have unchanged := hasChanges_fixed one.document
  obtain ⟨migrated, removed⟩ := Repair.hasChanges_eq_false.mp unchanged
  refine ⟨migrated, removed, ?_⟩
  simp only [Loaded.fix, Loaded.savedTo?, Loaded.map, unchanged, Bool.and_false, Bool.false_eq_true,
    if_false, Option.isSome_none]

/-- Documents that need no fix are not saved. -/
theorem edit?_fixed (store : Store) (one : Loaded) : (one.map fixed).edit? store true = none := by
  have unchanged := hasChanges_fixed one.document
  simp only [Loaded.edit?, Loaded.savedTo?, Loaded.map, unchanged, Bool.and_false,
    Bool.false_eq_true, if_false, Option.bind_none]

/-- A run of fixes over fixed documents reports as planned and changes nothing. -/
theorem run_fix_fixed
    (loads : (load (sightOf store) environment selection).result =
      .ok (loaded.map (Loaded.map fixed)))
    (format : Format) :
    (run store environment ⟨format, .fix selection true⟩).result =
        (fix format true (loaded.map (Loaded.map fixed))).ending ∧
      (run store environment ⟨format, .fix selection true⟩).store = store := by
  have nothing : edits store true (loaded.map (Loaded.map fixed)) = [] := by
    refine List.filterMap_eq_nil_iff.mpr fun one member => ?_
    obtain ⟨one, _, rfl⟩ := List.mem_map.mp member
    exact edit?_fixed store one
  rw [run_fix_eq loads, nothing]
  exact ⟨rfl, rfl⟩

/-- After a run that wrote its fixes a check of the same selection loads the same targets and finds no
issue, and further fixes migrate and remove nothing, write nothing and leave the store as it is. -/
theorem check_after_fix {format : Format} {notices : List Notice} {ending : Ending}
    (files : ∀ input ∈ selection.settings, (Target.ofInput input).path?.isSome = true)
    (written : run store environment ⟨format, .fix selection true⟩ = ⟨notices, .ok ending, after⟩) :
    ∃ before loaded, (load (sightOf store) environment selection).result = .ok before ∧
      (load (sightOf after) environment selection).result = .ok loaded ∧
      loaded.map Loaded.target = before.map Loaded.target ∧
      (∀ check ∈ loaded.map Loaded.check, check.valid = true ∧ check.issues = []) ∧
      (∀ fix ∈ loaded.map (Loaded.fix true),
        fix.migrated = [] ∧ fix.removed = [] ∧ fix.written = false) ∧
      ∀ format', (run after environment ⟨format', .check selection⟩).result =
          .ok ⟨Report.checks format' (loaded.map Loaded.check), .clean⟩ ∧
        (run after environment ⟨format', .fix selection true⟩).result =
          .ok ⟨Report.fixes format' (loaded.map (Loaded.fix true)), .clean⟩ ∧
        (run after environment ⟨format', .fix selection true⟩).store = after := by
  have result : (run store environment ⟨format, .fix selection true⟩).result = .ok ending := by
    rw [written]
  obtain ⟨before, loads⟩ := load_of_run_fix result
  obtain ⟨_, fixing⟩ := run_fix loads format
  rw [written] at fixing
  have again := load_after_fix files loads fixing
  have checks : ∀ check ∈ (before.map (Loaded.map fixed)).map Loaded.check,
      check.valid = true ∧ check.issues = [] := by
    simp only [List.map_map, List.forall_mem_map]
    exact fun one _ => check_fixed one
  refine ⟨before, _, loads, again, ?_, checks, ?_, fun format' => ⟨?_, ?_⟩⟩
  · rw [List.map_map]
    rfl
  · simp only [List.map_map, List.forall_mem_map]
    exact fun one _ => fix_fixed one
  · have clean : ((before.map (Loaded.map fixed)).map Loaded.check).all (·.valid) = true :=
      List.all_eq_true.mpr fun check member => (checks check member).1
    rw [run_check again]
    simp only [check, clean]
    rfl
  · exact run_fix_fixed again format'

/-- A document with a deprecated pattern and an entry that is no text. -/
def unfixed : Value :=
  .object [("permissions", .object [("allow", .array [.string "Bash(ls:*)", .integer 1])])]

/-- The document in a file. -/
def unfixedStore : Store :=
  ⟨[], [([['s']], .file unfixed.prettyFile.toUTF8)]⟩

/-- Two spellings of the path of the file. -/
def bothSpellings : Selection :=
  ⟨["s", "./s"], [], none, none⟩

theorem unfixed_wellFormed : unfixed.WellFormed := by
  refine Value.wellFormed_object.mpr ⟨by decide, List.forall_mem_singleton.mpr ?_⟩
  refine Value.wellFormed_object.mpr ⟨by decide, List.forall_mem_singleton.mpr ?_⟩
  have inRange : Value.IntegerInRange 1 := by decide
  exact ⟨trivial, inRange, trivial⟩

theorem load_bothSpellings (environment : Environment) :
    (load (sightOf unfixedStore) environment bothSpellings).result =
      .ok [⟨.file "s" none, unfixed⟩, ⟨.file "./s" none, unfixed⟩] := by
  have plain : (Target.file "s" none).load (sightOf unfixedStore) = .ok unfixed :=
    (load_of_file rfl (show unfixedStore.locate "s" = .ok [['s']] from rfl) rfl).trans
      (decode_toUTF8 unfixed_wellFormed)
  have dotted : (Target.file "./s" none).load (sightOf unfixedStore) = .ok unfixed :=
    (load_of_file rfl (show unfixedStore.locate "./s" = .ok [['s']] from rfl) rfl).trans
      (decode_toUTF8 unfixed_wellFormed)
  have given : bothSpellings.settings.map Target.ofInput =
      [.file "s" none, .file "./s" none] := by decide
  have nonempty : bothSpellings.settings.isEmpty = false := rfl
  simp only [load, nonempty, given, loadGiven, plain, dotted, Bool.false_eq_true, if_false]
  rfl

theorem check_after_fix_bothSpellings : (repair unfixed).hasChanges = true ∧
    ∃ notices ending after report,
      run unfixedStore ⟨none, none, "/"⟩ ⟨.text, .fix bothSpellings true⟩ =
        ⟨notices, .ok ending, after⟩ ∧
      (run after ⟨none, none, "/"⟩ ⟨.text, .check bothSpellings⟩).result = .ok ⟨report, .clean⟩ := by
  have files : ∀ input ∈ bothSpellings.settings, (Target.ofInput input).path?.isSome = true := by
    decide
  obtain ⟨result, _⟩ := run_fix (load_bothSpellings ⟨none, none, "/"⟩) .text
  cases written : run unfixedStore ⟨none, none, "/"⟩ ⟨.text, .fix bothSpellings true⟩ with
  | mk notices ended after =>
    rw [written] at result
    cases result
    obtain ⟨_, loaded, _, _, _, _, _, runs⟩ := check_after_fix files written
    exact ⟨by decide, notices, _, after, _, rfl, (runs .text).1⟩

end PermissionRules.Run
