import PermissionRules.Proofs.Run.FixThenCheck
import PermissionRules.Proofs.Run.LineFeeds

/-! What a run of fixes changes. The files that are written over are those of the loaded documents with
something to migrate or to remove; their text is that of the repaired documents, each is reported as
written, and what was done to it is told in warnings. Everything else is as it was. -/
namespace PermissionRules.Run
open CommandLine Document Files Report Rules Settings Text

variable {store now : Store} {environment : Environment} {selection : Selection}
variable {loaded : List Loaded} {one : Loaded} {write : Bool} {path : Path}
variable {location : Location} {content : ByteArray}

/-- The documents of `loaded` are fixed in a store, and nothing else is done. Only a file of a document
with changes is written over, and only if writing is asked for; it gets the pretty text of the repaired
document with a line feed at its end. No place is added or lost, every path leads where it led, and one
that shows no document with issues shows what it showed before. -/
structure Rewritten (store : Store) (write : Bool) (loaded : List Loaded) (after : Store) : Prop where
  workingDirectory : after.workingDirectory = store.workingDirectory
  places : after.nodes.keys = store.nodes.keys
  leads : ∀ path, after.locate path = store.locate path
  dry : write = false → after = store
  changed : ∀ location, after.node? location ≠ store.node? location → write = true ∧
    ∃ one ∈ loaded, (repair one.document).hasChanges = true ∧
      ∃ path content, InFile store one path location content
  saved : write = true → ∀ one ∈ loaded, (repair one.document).hasChanges = true →
    ∀ path, one.target.path? = some path → ∃ location content,
      InFile store one path location content ∧
        after.read path = .ok ((repairedDocument one.document).pretty ++ "\n").toUTF8
  kept : ∀ path, (∀ content document, store.read path = .ok content →
      decode content = .ok document → issues document = []) → after.read path = store.read path

theorem issues_ne_nil {document : Value} (changes : (repair document).hasChanges = true) :
    issues document ≠ [] := by
  intro clean
  rw [hasChanges_iff, isClean, clean] at changes
  contradiction

theorem rewritten_edits
    (loads : ∀ one ∈ loaded, one.target.load (sightOf store) = .ok one.document) (write : Bool) :
    Rewritten store write loaded (store.putAll (edits store write loaded)) where
  workingDirectory := rfl
  places := Ordered.keys_putAll_of_mem (held_edits loads)
  leads := (sameTree_edits loads).locate
  dry := by
    intro dry
    have idle : edits store write loaded = [] := by
      refine List.eq_nil_iff_forall_not_mem.mpr fun entry member => ?_
      obtain ⟨_, _, _, _, _, saved, _⟩ := mem_edits loads member
      rw [dry] at saved
      exact absurd (Loaded.savedTo?_eq_some.mp saved).1 nofun
    rw [idle]
    rfl
  changed := by
    intro location changed
    obtain ⟨one, member, path, content, saved, file⟩ := changed_edits loads changed
    obtain ⟨writes, changes, _⟩ := Loaded.savedTo?_eq_some.mp saved
    exact ⟨writes, one, member, changes, path, content, file⟩
  saved := by
    intro writes one member changes path target
    have saved : one.savedTo? write = some path :=
      Loaded.savedTo?_eq_some.mpr ⟨writes, changes, target⟩
    obtain ⟨location, content, file⟩ := inFile_of_saved (loads one member) saved
    refine ⟨location, content, file, Store.read_eq_ok.mpr ⟨location, ?_, ?_⟩⟩
    · exact ((sameTree_edits loads).locate path).trans file.leads
    · exact node?_edits loads member saved file
  kept := by
    intro path clean
    refine (sameTree_edits loads).read fun location leads => ?_
    by_contra changed
    obtain ⟨one, _, path', content, saved, file⟩ := changed_edits loads changed
    obtain ⟨_, changes, _⟩ := Loaded.savedTo?_eq_some.mp saved
    have read : store.read path = .ok content := Store.read_eq_ok.mpr ⟨location, leads, file.file⟩
    exact issues_ne_nil changes (clean content one.document read file.decoded)

/-- How the fix of a loaded document is reported: with the repaired document if there is no file for it,
and as written exactly if its file was changed. -/
structure Reported (store : Store) (write : Bool) (after : Store) (loaded : Loaded)
    (fix : DocumentFix) : Prop where
  source : fix.source = loaded.target.display
  migrated : fix.migrated = (repair loaded.document).migrated
  removed : fix.removed = (repair loaded.document).removed
  settings : fix.settings =
    if loaded.target.path?.isNone then some (repairedDocument loaded.document) else none
  written : fix.written = true ↔ write = true ∧ (repair loaded.document).hasChanges = true ∧
    loaded.target.path?.isSome = true
  changed : fix.written = true ↔
    ∃ path, loaded.target.path? = some path ∧ after.read path ≠ store.read path

theorem written_iff : (one.fix write).written = true ↔ write = true ∧
    (repair one.document).hasChanges = true ∧ one.target.path?.isSome = true := by
  show (one.savedTo? write).isSome = true ↔ _
  simp only [Option.isSome_iff_exists, Loaded.savedTo?_eq_some, exists_and_left]

/-- Repaired text is never the text of a document with changes. -/
theorem fixedContent_ne (file : InFile store one path location content)
    (changes : (repair one.document).hasChanges = true) : fixedContent one.document ≠ content := by
  intro same
  have read := decode_fixedContent file.decoded
  rw [same, file.decoded] at read
  have unchanged := hasChanges_repairedDocument one.document
  rw [← Except.ok.inj read, changes] at unchanged
  contradiction

theorem reported_fix (loads : ∀ one ∈ loaded, one.target.load (sightOf store) = .ok one.document)
    (member : one ∈ loaded) (write : Bool) :
    Reported store write (store.putAll (edits store write loaded)) one (one.fix write) where
  source := rfl
  migrated := rfl
  removed := rfl
  settings := rfl
  written := written_iff
  changed := by
    have rewritten := rewritten_edits loads write
    rw [written_iff, Option.isSome_iff_exists]
    constructor
    · rintro ⟨writes, changes, path, target⟩
      obtain ⟨location, content, file, read⟩ :=
        rewritten.saved writes one member changes path target
      refine ⟨path, target, ?_⟩
      rw [read, file.read]
      intro same
      exact fixedContent_ne file changes (Except.ok.inj same)
    · rintro ⟨path, target, changed⟩
      obtain ⟨location, content, file⟩ := inFile_of_path? (loads one member) target
      have altered : (store.putAll (edits store write loaded)).node? location ≠
          store.node? location := by
        intro same
        refine changed ((sameTree_edits loads).read fun location' leads => ?_)
        obtain rfl := Except.ok.inj (file.leads.symm.trans leads)
        exact same
      -- Another target may have led there, but with the same document.
      obtain ⟨other, _, _, _, saved, file'⟩ := changed_edits loads altered
      obtain ⟨writes, changes, _⟩ := Loaded.savedTo?_eq_some.mp saved
      rw [← file.document_eq file'] at changes
      exact ⟨writes, changes, path, target⟩

/-- A run of fixes that ends with a report has written over exactly the files of the loaded documents
with changes. It reports every loaded document in order, and behind the targets that were skipped it tells each
migration and each removal of a document that was saved. -/
theorem fix_saves_exactly {format : Format} {ending : Ending}
    (ran : (run store environment ⟨format, .fix selection write⟩).result = .ok ending) :
    let outcome := run store environment ⟨format, .fix selection write⟩
    let skipped := (load (sightOf store) environment selection).skipped
    ∃ loaded, (load (sightOf store) environment selection).result = .ok loaded ∧
      Rewritten store write loaded outcome.store ∧
      ending = ⟨Report.fixes format (loaded.map (Loaded.fix write)), .clean⟩ ∧
      (∀ one ∈ loaded, Reported store write outcome.store one (one.fix write)) ∧
      (∀ terminal, outcome.diagnostics terminal = warningsText terminal (fixWarnings write skipped loaded) ∧
        TellsLines terminal (fixWarnings write skipped loaded) (outcome.diagnostics terminal)) ∧
      ((∀ warning ∈ fixWarnings write skipped loaded, '\n' ∉ warning.rest.toList) ↔
        Unbroken write skipped loaded) := by
  intro outcome skipped
  obtain ⟨loaded, loaded_eq⟩ := load_of_run_fix ran
  have loads := load_of_mem loaded_eq
  have ended := run_fix_eq loaded_eq format write
  refine ⟨loaded, loaded_eq, ?_, ?_, ?_, ?_, ?_⟩
  · simp only [outcome, ended]
    exact rewritten_edits loads write
  · rw [ended] at ran
    exact (Except.ok.inj ran).symm
  · intro one member
    simp only [outcome, ended]
    exact reported_fix loads member write
  · intro terminal
    have text := diagnostics_fix loaded_eq format write terminal
    exact ⟨text, text ▸ tellsLines terminal _⟩
  · exact unbroken_fixWarnings_iff fun _ => load_of_mem_skipped

theorem fix_saves_exactly_bothSpellings : ∃ ending,
    (run unfixedStore ⟨none, none, "/"⟩ ⟨.text, .fix bothSpellings true⟩).result = .ok ending ∧
    (run unfixedStore ⟨none, none, "/"⟩ ⟨.text, .fix bothSpellings true⟩).store.read "./s" =
      .ok ((repairedDocument unfixed).pretty ++ "\n").toUTF8 ∧
    linesOf ((run unfixedStore ⟨none, none, "/"⟩ ⟨.text, .fix bothSpellings true⟩).diagnostics false) = [
      "Warning: Migrated permission pattern in s: Bash(ls:*) -> Bash(ls *)",
      "Warning: Removed invalid permission pattern from allow in s: 1 (Pattern is not a string)",
      "Warning: Migrated permission pattern in ./s: Bash(ls:*) -> Bash(ls *)",
      "Warning: Removed invalid permission pattern from allow in ./s: 1 (Pattern is not a string)", ""] := by
  have loads := load_bothSpellings ⟨none, none, "/"⟩
  have ended := congrArg Outcome.result (run_fix_eq loads .text true)
  obtain ⟨loaded, loaded_eq, rewritten, _, _, told, whole⟩ := fix_saves_exactly ended
  obtain rfl := Except.ok.inj (loads.symm.trans loaded_eq)
  obtain ⟨_, _, _, read⟩ := rewritten.saved rfl ⟨.file "./s" none, unfixed⟩ (by simp) (by decide) _ rfl
  refine ⟨_, ended, read, ((told false).2.unbroken (whole.mpr ⟨nofun, ?_⟩)).trans ?_⟩
  · decide +kernel
  · decide +kernel

/-- A document with a pattern that is refused for its line feed; what stands behind it reads like a warning. -/
def forging : Value :=
  .object [("permissions", .object [("deny",
    .array [.string "x\nWarning: Migrated permission pattern in s: A -> B"])])]

/-- The document in a file. -/
def forgingStore : Store :=
  ⟨[], [([['s']], .file forging.prettyFile.toUTF8)]⟩

def oneFile : Selection :=
  ⟨["s"], [], none, none⟩

theorem load_forging : (load (sightOf forgingStore) ⟨none, none, "/"⟩ oneFile).result =
    .ok [⟨.file "s" none, forging⟩] := by
  have wellFormed : forging.WellFormed := by
    refine Value.wellFormed_object.mpr ⟨by decide, List.forall_mem_singleton.mpr ?_⟩
    exact Value.wellFormed_object.mpr ⟨by decide, List.forall_mem_singleton.mpr ⟨trivial, trivial⟩⟩
  have loads : (Target.file "s" none).load (sightOf forgingStore) = .ok forging :=
    (load_of_file rfl (show forgingStore.locate "s" = .ok [['s']] from rfl) rfl).trans
      (decode_toUTF8 wellFormed)
  have given : oneFile.settings.map Target.ofInput = [.file "s" none] := by decide
  rw [load_given _ _ (by decide), given]
  simp only [loadGiven, loads]
  rfl

/-- Nothing is migrated, but a line of the warning about a removed pattern begins like one that tells of a
migration. -/
theorem forged_migration :
    (load (sightOf forgingStore) ⟨none, none, "/"⟩ oneFile).result = .ok [⟨.file "s" none, forging⟩] ∧
    (∃ ending, (run forgingStore ⟨none, none, "/"⟩ ⟨.text, .fix oneFile true⟩).result = .ok ending) ∧
    (repair forging).migrated = [] ∧
    linesAbout false [.migrated]
        ((run forgingStore ⟨none, none, "/"⟩ ⟨.text, .fix oneFile true⟩).diagnostics false) =
      ["Warning: Migrated permission pattern in s: A -> B (Pattern must not contain newline characters)"] := by
  have ended := congrArg Outcome.result (run_fix_eq load_forging .text true)
  refine ⟨load_forging, ⟨_, ended⟩, by decide, ?_⟩
  rw [diagnostics_fix load_forging]
  decide +kernel

end PermissionRules.Run
