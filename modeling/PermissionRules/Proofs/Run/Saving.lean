import PermissionRules.Proofs.Run.Fixing
import PermissionRules.Proofs.Run.Loading

/-! How a run of fixes ends. All documents are loaded before the first one is saved, and saving keeps
every path where it leads, so the file of a loaded document is still there when its turn comes. No save
fails, the run reports what was planned, and its store has the files of the changed documents written
over. -/
namespace PermissionRules.Run
open CommandLine Document Files Report Rules Settings

namespace Loaded

/-- The notices about a document, which are given only if it is saved. -/
def savedNotices (write : Bool) (loaded : Loaded) : List Notice :=
  if (loaded.savedTo? write).isSome then loaded.changeNotices else []

/-- The file that is written over for a document, by its place, if there is any. -/
def edit? (store : Store) (write : Bool) (loaded : Loaded) : Option (Location × Node) :=
  (loaded.savedTo? write).bind fun path =>
    (store.locate path).toOption.map fun location => (location, .file (fixedContent loaded.document))

theorem fixSteps_eq (write : Bool) (one : Loaded) : one.fixSteps write =
    (one.savedNotices write).map .notify ++
    (one.savedTo? write).toList.map fun path => .save path (repair one.document).document := by
  unfold fixSteps savedNotices
  cases one.savedTo? write <;> rfl

end Loaded

/-- The files that are written over for documents, by their places. -/
def edits (store : Store) (write : Bool) (loaded : List Loaded) : List (Location × Node) :=
  loaded.filterMap (Loaded.edit? store write)

variable {store now : Store} {environment : Environment} {selection : Selection}
variable {loaded : List Loaded} {one : Loaded} {write : Bool} {path : Path}
variable {location : Location} {content : ByteArray}

theorem perform_notify (store : Store) (ending : Except RunError Ending) (notices : List Notice)
    (steps : List Step) : perform store ending (notices.map .notify ++ steps) =
      { perform store ending steps with
        notices := notices ++ (perform store ending steps).notices } := by
  induction notices with
  | nil => rfl
  | cons notice notices ih =>
    rw [List.map_cons, List.cons_append, perform, ih]
    rfl

/-- The file of a saved document is found where it was when the document was loaded. -/
theorem inFile_of_saved (loads : one.target.load (sightOf store) = .ok one.document)
    (saved : one.savedTo? write = some path) :
    ∃ location content, InFile store one path location content :=
  inFile_of_path? loads (Loaded.savedTo?_eq_some.mp saved).2.2

theorem edit?_of_inFile (saved : one.savedTo? write = some path)
    (file : InFile store one path location content) :
    one.edit? store write = some (location, .file (fixedContent one.document)) := by
  simp only [Loaded.edit?, saved, Option.bind_some, file.leads]
  rfl

/-- The steps of one document write over its file if it is saved, and do nothing otherwise. -/
theorem perform_fixSteps (same : store.SameTree now)
    (loads : one.target.load (sightOf store) = .ok one.document) (write : Bool)
    (ending : Except RunError Ending) (steps : List Step) :
    let after := now.putAll (one.edit? store write).toList
    store.SameTree after ∧ perform now ending (one.fixSteps write ++ steps) =
      { perform after ending steps with
        notices := one.savedNotices write ++ (perform after ending steps).notices } := by
  intro after
  rw [Loaded.fixSteps_eq, List.append_assoc, perform_notify]
  cases saved : one.savedTo? write with
  | none =>
    have idle : after = now := by
      simp only [after, Loaded.edit?, saved]
      rfl
    rw [idle]
    exact ⟨same, rfl⟩
  | some path =>
    obtain ⟨location, content, file⟩ := inFile_of_saved loads saved
    have put : after = now.put location (.file (fixedContent one.document)) := by
      simp only [after, edit?_of_inFile saved file]
      rfl
    obtain ⟨held, file'⟩ := same.isFile file.file
    have success : saveDocument now path (repair one.document).document = (.ok (), after) := by
      rw [put]
      exact Store.save_of_file ((same.locate path).trans file.leads) file' _
    refine ⟨put ▸ same.put file.file _, ?_⟩
    simp only [Option.toList_some, List.map_cons, List.map_nil, List.cons_append, List.nil_append,
      perform, success]

theorem perform_fixes (same : store.SameTree now)
    (loads : ∀ one ∈ loaded, one.target.load (sightOf store) = .ok one.document) (write : Bool)
    (ending : Except RunError Ending) :
    perform now ending (loaded.flatMap (Loaded.fixSteps write)) =
      ⟨loaded.flatMap (Loaded.savedNotices write), ending,
        now.putAll (edits store write loaded)⟩ := by
  induction loaded generalizing now with
  | nil => rfl
  | cons one rest ih =>
    obtain ⟨first, others⟩ := List.forall_mem_cons.mp loads
    obtain ⟨same', performed⟩ :=
      perform_fixSteps same first write ending (rest.flatMap (Loaded.fixSteps write))
    have next : (now.putAll (one.edit? store write).toList).putAll (edits store write rest) =
        now.putAll (edits store write (one :: rest)) := by
      rw [edits, edits, List.filterMap_cons]
      cases one.edit? store write <;> rfl
    rw [List.flatMap_cons, performed, ih same' others, next]
    rfl

/-- Each edit comes from a loaded document that is saved. -/
theorem mem_edits (loads : ∀ one ∈ loaded, one.target.load (sightOf store) = .ok one.document)
    {entry : Location × Node} (member : entry ∈ edits store write loaded) :
    ∃ one ∈ loaded, ∃ path location content, one.savedTo? write = some path ∧
      InFile store one path location content ∧
      entry = (location, .file (fixedContent one.document)) := by
  obtain ⟨one, member, edit⟩ := List.mem_filterMap.mp member
  cases saved : one.savedTo? write with
  | none =>
    rw [Loaded.edit?, saved, Option.bind_none] at edit
    contradiction
  | some path =>
    obtain ⟨location, content, file⟩ := inFile_of_saved (loads one member) saved
    rw [edit?_of_inFile saved file] at edit
    exact ⟨one, member, path, location, content, saved, file, (Option.some.inj edit).symm⟩

theorem held_edits (loads : ∀ one ∈ loaded, one.target.load (sightOf store) = .ok one.document) :
    ∀ entry ∈ edits store write loaded, entry.1 ∈ store.nodes.keys := by
  intro entry member
  obtain ⟨_, _, _, _, _, _, file, rfl⟩ := mem_edits loads member
  exact Store.mem_keys_of_file file.file

theorem consistent_edits
    (loads : ∀ one ∈ loaded, one.target.load (sightOf store) = .ok one.document) :
    Ordered.Consistent (edits store write loaded) := by
  intro entry member entry' member' same
  obtain ⟨one, _, _, location, _, _, file, rfl⟩ := mem_edits loads member
  obtain ⟨other, _, _, location', _, _, file', rfl⟩ := mem_edits loads member'
  obtain rfl : location = location' := same
  rw [file.document_eq file']

/-- After the edits the file of a saved document holds the repaired text. -/
theorem node?_edits (loads : ∀ one ∈ loaded, one.target.load (sightOf store) = .ok one.document)
    (member : one ∈ loaded) (saved : one.savedTo? write = some path)
    (file : InFile store one path location content) :
    (store.putAll (edits store write loaded)).node? location =
      some (.file (fixedContent one.document)) := by
  have edit : (location, .file (fixedContent one.document)) ∈ edits store write loaded :=
    List.mem_filterMap.mpr ⟨one, member, edit?_of_inFile saved file⟩
  exact Store.node?_putAll_of_consistent store (consistent_edits loads) edit
    (Store.ne_nil_of_file file.file)

/-- A place that the edits change is that of the file of a saved document. -/
theorem changed_edits (loads : ∀ one ∈ loaded, one.target.load (sightOf store) = .ok one.document)
    (changed : (store.putAll (edits store write loaded)).node? location ≠ store.node? location) :
    ∃ one ∈ loaded, ∃ path content, one.savedTo? write = some path ∧
      InFile store one path location content := by
  by_cases edited : location ∈ Ordered.keys (edits store write loaded)
  · obtain ⟨entry, edit, rfl⟩ := List.mem_map.mp edited
    obtain ⟨one, member, path, _, content, saved, file, rfl⟩ := mem_edits loads edit
    exact ⟨one, member, path, content, saved, file⟩
  · exact absurd (Store.node?_putAll_of_not_mem store edited) changed

theorem sameTree_edits (loads : ∀ one ∈ loaded, one.target.load (sightOf store) = .ok one.document) :
    store.SameTree (store.putAll (edits store write loaded)) := by
  constructor
  · rfl
  · intro location
    by_cases same : (store.putAll (edits store write loaded)).node? location = store.node? location
    · exact .inl same
    · obtain ⟨one, member, _, content, saved, file⟩ := changed_edits loads same
      exact .inr ⟨content, _, file.file, node?_edits loads member saved file⟩

/-- The edits fix all documents. -/
theorem fixing_edits (loads : ∀ one ∈ loaded, one.target.load (sightOf store) = .ok one.document) :
    Fixing store loaded (store.putAll (edits store true loaded)) where
  workingDirectory := rfl
  nodes := by
    intro location
    by_cases same : (store.putAll (edits store true loaded)).node? location = store.node? location
    · exact .inl same
    · obtain ⟨one, member, _, content, saved, file⟩ := changed_edits loads same
      obtain ⟨_, changes, _⟩ := Loaded.savedTo?_eq_some.mp saved
      exact .inr ⟨content, one.document, file.file, file.decoded, changes,
        node?_edits loads member saved file⟩
  saved := by
    intro one member path location content file changes
    have saved : one.savedTo? true = some path :=
      Loaded.savedTo?_eq_some.mpr ⟨rfl, changes, file.target⟩
    exact node?_edits loads member saved file

/-- The notices of the targets that did not load. -/
def Loading.skippedNotices (loading : Loading) : List Notice :=
  loading.skipped.map fun skipped => .skipped skipped.target skipped.fault

theorem Loading.notices_eq (loading : Loading) :
    loading.notices = loading.skippedNotices.map .notify := by
  rw [skippedNotices, List.map_map]
  rfl

theorem load_of_mem (loads : (load (sightOf store) environment selection).result = .ok loaded) :
    ∀ one ∈ loaded, one.target.load (sightOf store) = .ok one.document :=
  fun _ member => ((mem_load loads).mp member).2

theorem run_check_eq (loads : (load (sightOf store) environment selection).result = .ok loaded)
    (format : Format) : run store environment ⟨format, .check selection⟩ =
      ⟨(load (sightOf store) environment selection).skippedNotices, (check format loaded).ending,
        store⟩ := by
  simp only [run, plan, Loading.andThen, loads, Loading.notices_eq, perform_notify]
  simp only [check, perform, List.append_nil]

/-- A run of fixes that loads its documents reports all of them and writes the changed files over. -/
theorem run_fix_eq (loads : (load (sightOf store) environment selection).result = .ok loaded)
    (format : Format) (write : Bool) : run store environment ⟨format, .fix selection write⟩ =
      ⟨(load (sightOf store) environment selection).skippedNotices ++
          loaded.flatMap (Loaded.savedNotices write),
        .ok ⟨Report.fixes format (loaded.map (Loaded.fix write)), .clean⟩,
        store.putAll (edits store write loaded)⟩ := by
  simp only [run, plan, Loading.andThen, loads, Loading.notices_eq, perform_notify]
  simp only [fix, perform_fixes (Store.SameTree.refl store) (load_of_mem loads)]

/-- A command on documents. -/
def WorksOn (selection : Selection) (command : Command) : Prop :=
  command = .check selection ∨ ∃ write, command = .fix selection write

/-- A run whose documents do not load does nothing. -/
theorem run_of_load_error {error : RunError} {command : Command}
    (fails : (load (sightOf store) environment selection).result = .error error)
    (works : WorksOn selection command) (format : Format) :
    run store environment ⟨format, command⟩ =
      ⟨(load (sightOf store) environment selection).skippedNotices, .error error, store⟩ := by
  rcases works with rfl | ⟨write, rfl⟩
  all_goals
    simp only [run, plan, Loading.andThen, fails, Loading.notices_eq]
    rw [← List.append_nil (List.map _ _), perform_notify]
    simp only [perform, List.append_nil]

end PermissionRules.Run
