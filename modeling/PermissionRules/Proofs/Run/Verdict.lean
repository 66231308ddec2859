import PermissionRules.Proofs.Report.ReadBack
import PermissionRules.Proofs.Run.Rejection
import Mathlib.Tactic.TFAE

/-! The verdict of a check. The status of the run, the text and the value that it reports, and what the value
holds of each document are computed apart from each other; all of them tell whether there are issues. -/
namespace PermissionRules.Run
open CommandLine Document Files Report Rules Settings

/-- The text that a loaded document has in a report. -/
def Loaded.text (one : Loaded) : String :=
  checkText one.target.display (issues one.document)

/-- A value records the place and the issues of a loaded document. -/
def Loaded.HeldBy (one : Loaded) (entry : Value) : Prop :=
  RecordsCheck ⟨one.target.display, (issues one.document).isEmpty, issues one.document⟩ entry

/-- The status, the text and the value of a check agree on the loaded documents, of which the value has
the `documents` in order. -/
structure Verdict (loaded : List Loaded) (status : Status) (text : String) (value : Value)
    (documents : List Value) : Prop where
  texts : text = String.join (loaded.map Loaded.text)
  array : value.get? "documents" = some (.array documents)
  order : List.Forall₂ Loaded.HeldBy loaded documents
  clean : [status = .clean,
    ∀ one ∈ loaded, issues one.document = [],
    value.get? "valid" = some (.bool true),
    ∀ document ∈ documents, document.get? "valid" = some (.bool true),
    text = String.join (loaded.map fun one => one.target.display ++ ": ok\n")].TFAE
  findings : [status = .findings,
    ∃ one ∈ loaded, issues one.document ≠ [],
    value.get? "valid" = some (.bool false)].TFAE
  each : ∀ before one after, loaded = before ++ one :: after →
    ∃ document, documents[before.length]? = some document ∧ one.HeldBy document ∧
      [issues one.document ≠ [],
        document.get? "valid" = some (.bool false),
        ∃ first others, document.get? "issues" = some (.array (first :: others)),
        ∃ rest, text = String.join (before.map Loaded.text) ++
          issuesText one.target.display (issues one.document) ++ rest].TFAE

variable {store : Store} {environment : Environment} {selection : Selection} {loaded : List Loaded}

theorem heldBy_value (one : Loaded) : one.HeldBy one.check.value :=
  recordsCheck one.check

namespace Loaded.HeldBy
variable {one : Loaded} {entry : Value}

theorem valid_iff (held : one.HeldBy entry) :
    entry.get? "valid" = some (.bool true) ↔ issues one.document = [] := by
  rw [held.valid, Option.some.injEq, Value.bool.injEq, List.isEmpty_iff]

theorem invalid_iff (held : one.HeldBy entry) :
    entry.get? "valid" = some (.bool false) ↔ issues one.document ≠ [] := by
  rw [held.valid, Option.some.injEq, Value.bool.injEq, List.isEmpty_eq_false_iff]

theorem issues_iff (held : one.HeldBy entry) :
    (∃ first others, entry.get? "issues" = some (.array (first :: others))) ↔
      issues one.document ≠ [] := by
  obtain ⟨entries, array, each⟩ := held.issues
  simp only [array, Option.some.injEq, Value.array.injEq]
  rw [← List.ne_nil_iff_exists_cons, ← List.length_pos_iff, ← List.length_pos_iff, ← each.length_eq]

end Loaded.HeldBy

theorem all_valid_iff (loaded : List Loaded) : (loaded.map Loaded.check).all (·.valid) = true ↔
    ∀ one ∈ loaded, issues one.document = [] := by
  simp only [List.all_map, List.all_eq_true]
  exact forall₂_congr fun one _ => List.isEmpty_iff

theorem any_invalid_iff (loaded : List Loaded) : (loaded.map Loaded.check).all (·.valid) = false ↔
    ∃ one ∈ loaded, issues one.document ≠ [] := by
  rw [← Bool.not_eq_true, all_valid_iff]
  simp only [not_forall, exists_prop]

theorem ofValid_eq_clean {valid : Bool} : Status.ofValid valid = .clean ↔ valid = true := by
  cases valid with
  | true | false => decide

theorem ofValid_eq_findings {valid : Bool} : Status.ofValid valid = .findings ↔ valid = false := by
  cases valid with
  | true | false => decide

theorem map_text_check (loaded : List Loaded) :
    (loaded.map Loaded.check).map (fun check => checkText check.source check.issues) =
      loaded.map Loaded.text := by
  rw [List.map_map]
  rfl

/-- The texts of all documents are the word of documents without issues only if each of them has none. -/
theorem text_eq_ok_iff (loaded : List Loaded) : checks .text (loaded.map Loaded.check) =
      String.join (loaded.map fun one => one.target.display ++ ": ok\n") ↔
    ∀ one ∈ loaded, issues one.document = [] := by
  have ok := checks_text_eq_ok (loaded.map Loaded.check)
  rw [List.map_map, List.forall_mem_map] at ok
  exact ok

theorem verdict (loaded : List Loaded) :
    Verdict loaded (.ofValid ((loaded.map Loaded.check).all (·.valid)))
      (checks .text (loaded.map Loaded.check)) (checksValue (loaded.map Loaded.check))
      ((loaded.map Loaded.check).map (·.value)) where
  texts := by rw [checks_text, map_text_check]
  array := rfl
  order := by
    rw [List.map_map, List.forall₂_map_right_iff, List.forall₂_same]
    exact fun one _ => heldBy_value one
  clean := by
    have all := all_valid_iff loaded
    tfae_have 1 ↔ 2 := ofValid_eq_clean.trans all
    tfae_have 3 ↔ 2 := by
      rw [get?_valid_checksValue, Option.some.injEq, Value.bool.injEq, all]
    tfae_have 4 ↔ 2 := by
      rw [List.map_map, List.forall_mem_map]
      exact forall₂_congr fun one _ => (heldBy_value one).valid_iff
    tfae_have 5 ↔ 2 := text_eq_ok_iff loaded
    tfae_finish
  findings := by
    have any := any_invalid_iff loaded
    tfae_have 1 ↔ 2 := ofValid_eq_findings.trans any
    tfae_have 3 ↔ 2 := by
      rw [get?_valid_checksValue, Option.some.injEq, Value.bool.injEq, any]
    tfae_finish
  each := by
    rintro before one after rfl
    have held := heldBy_value one
    refine ⟨one.check.value, by simp, held, ?_⟩
    have block := checks_text_block (before.map Loaded.check) (after.map Loaded.check) one.check
    rw [map_text_check, ← List.map_cons, ← List.map_append] at block
    tfae_have 2 ↔ 1 := held.invalid_iff
    tfae_have 3 ↔ 1 := held.issues_iff
    tfae_have 1 ↔ 4 := block
    tfae_finish

/-- Whatever documents a check loads, its status, its text and its value agree on them, and the store stays as
it is. The value is what the report in the other format is read as. -/
theorem check_verdict (loads : (load (sightOf store) environment selection).result = .ok loaded) :
    ∃ status text value documents, Verdict loaded status text value documents ∧
      run store environment ⟨.text, .check selection⟩ =
        ⟨(load (sightOf store) environment selection).skippedNotices, .ok ⟨text, status⟩, store⟩ ∧
      run store environment ⟨.json, .check selection⟩ =
        ⟨(load (sightOf store) environment selection).skippedNotices, .ok ⟨value.prettyFile, status⟩,
          store⟩ ∧
      parseDocument value.prettyFile = .ok value := by
  refine ⟨_, _, _, _, verdict loaded, run_check_eq loads .text, run_check_eq loads .json, ?_⟩
  rw [parseDocument, parse_prettyFile (checksValue_wellFormed _)]
  rfl

/-- An empty document and the file. -/
def emptyAndFile : Selection :=
  ⟨["{}", "s"], [], none, none⟩

def emptyAndFileLoaded : List Loaded :=
  [⟨.inline "{}", .object []⟩, ⟨.file "s" none, unfixed⟩]

theorem load_emptyAndFile (environment : Environment) :
    (load (sightOf unfixedStore) environment emptyAndFile).result = .ok emptyAndFileLoaded := by
  have inline : Target.ofInput "{}" = .inline "{}" := by decide
  have file : Target.ofInput "s" = .file "s" none := by decide
  have empty := inline ▸ load_inline_empty (sightOf unfixedStore)
  have held := load_of_mem (load_bothSpellings environment) ⟨.file "s" none, unfixed⟩ List.mem_cons_self
  have given : emptyAndFile.settings ≠ [] := List.cons_ne_nil _ _
  rw [load_given _ _ given, emptyAndFile]
  simp only [List.map_cons, List.map_nil, inline, file, loadGiven, empty, held]
  rfl

def emptyAndFileText : String :=
  "<inline>: ok\n" ++
    "s: 2 issue(s)\n" ++
    "  allow: Bash(ls:*)\n" ++
    "    error: The :* pattern inside Tool(...) is deprecated. Use space-wildcard instead: " ++
    "e.g., Bash(command *) not Bash(command:*)\n" ++
    "    suggestion: Bash(ls *)\n" ++
    "  allow: 1\n" ++
    "    error: Pattern is not a string\n"

theorem check_verdict_emptyAndFile :
    (load (sightOf unfixedStore) ⟨none, none, "/"⟩ emptyAndFile).result = .ok emptyAndFileLoaded ∧
    ∃ value documents, Verdict emptyAndFileLoaded .findings emptyAndFileText value documents ∧
      (run unfixedStore ⟨none, none, "/"⟩ ⟨.text, .check emptyAndFile⟩).result =
        .ok ⟨emptyAndFileText, .findings⟩ ∧
      parseDocument value.prettyFile = .ok value := by
  have loads := load_emptyAndFile ⟨none, none, "/"⟩
  obtain ⟨status, text, value, documents, verdict, run, _, read⟩ := check_verdict loads
  have found : ∃ one ∈ emptyAndFileLoaded, issues one.document ≠ [] :=
    ⟨⟨.file "s" none, unfixed⟩, List.mem_cons_of_mem _ List.mem_cons_self, by decide⟩
  obtain rfl := (verdict.findings.out 0 1).mpr found
  obtain rfl : text = emptyAndFileText := verdict.texts.trans (by decide +kernel)
  refine ⟨loads, value, documents, verdict, ?_, read⟩
  rw [run]

end PermissionRules.Run
