import PermissionRules.Proofs.Document.Edited
import PermissionRules.Proofs.Rules.FixedPoint
import PermissionRules.Proofs.Run.FixThenCheck
import PermissionRules.Proofs.Settings.Inline

/-! Feeding fixes back. A run of fixes reports the repaired document of an inline input; the compact text of
this document is an inline input again, which has no issues and whose fix reports the same document. -/
namespace PermissionRules.Run
open CommandLine Document Files Report Rules Settings

variable {look : Path → Sight} {store : Store} {environment : Environment} {selection : Selection}
variable {input text : String} {document : Value} {loaded : List Loaded}

/-- What a run of fixes reports of an inline document. -/
def inlineFix (document : Value) : DocumentFix where
  source := "<inline>"
  migrated := (repair document).migrated
  removed := (repair document).removed
  written := false
  settings := some (repair document).document

theorem savedTo?_inline (write : Bool) (text : String) (document : Value) :
    Loaded.savedTo? write ⟨.inline text, document⟩ = none :=
  ite_self none

theorem fix_inline (write : Bool) (text : String) (document : Value) :
    Loaded.fix write ⟨.inline text, document⟩ = inlineFix document := by
  rw [Loaded.fix, savedTo?_inline]
  rfl

theorem inlineFix_repairedDocument (document : Value) : inlineFix (repairedDocument document) =
    ⟨"<inline>", [], [], false, some (repairedDocument document)⟩ := by
  rw [inlineFix, repair_repairedDocument]

theorem check_inline_repairedDocument (text : String) (document : Value) :
    Loaded.check ⟨.inline text, repairedDocument document⟩ = ⟨"<inline>", true, []⟩ := by
  rw [Loaded.check, DocumentCheck.ofDocument, isClean_repairedDocument, issues_repairedDocument]
  rfl

/-- A single input is loaded alone, and nothing is skipped. -/
theorem load_inline (environment : Environment) (given : selection.settings = [input])
    (inline : Target.ofInput input = .inline text)
    (loads : (Target.inline text).load look = .ok document) :
    load look environment selection = ⟨[], .ok [⟨.inline text, document⟩]⟩ := by
  have nonempty : selection.settings ≠ [] := by simp [given]
  rw [load_given look environment nonempty, given, List.map_singleton, inline, loadGiven, loads]
  rfl

theorem run_check_inline (given : selection.settings = [input])
    (inline : Target.ofInput input = .inline text)
    (loads : (Target.inline text).load (sightOf store) = .ok document) (format : Format) :
    run store environment ⟨format, .check selection⟩ =
      ⟨[], (check format [⟨.inline text, document⟩]).ending, store⟩ := by
  have alone := load_inline environment given inline loads
  rw [run_check_eq (congrArg Loading.result alone), alone]
  rfl

/-- Fixing an inline document writes nothing and says nothing but the report. -/
theorem run_fix_inline (given : selection.settings = [input])
    (inline : Target.ofInput input = .inline text)
    (loads : (Target.inline text).load (sightOf store) = .ok document) (format : Format) (write : Bool) :
    run store environment ⟨format, .fix selection write⟩ =
      ⟨[], .ok ⟨Report.fixes format [inlineFix document], .clean⟩, store⟩ := by
  have alone := load_inline environment given inline loads
  have unedited : edits store write [⟨.inline text, document⟩] = [] := by
    simp only [edits, List.filterMap_cons, List.filterMap_nil, Loaded.edit?, savedTo?_inline,
      Option.bind_none]
  have silent : Loaded.savedNotices write ⟨.inline text, document⟩ = [] := by
    rw [Loaded.savedNotices, savedTo?_inline]
    rfl
  rw [run_fix_eq (congrArg Loading.result alone), alone, unedited, List.flatMap_singleton, silent,
    List.map_singleton, fix_inline]
  rfl

/-- Among the targets of any run, the fix of an inline document is reported in the place of its input. -/
theorem fixes_of_inline {before after : List String}
    (given : selection.settings = before ++ input :: after)
    (inline : Target.ofInput input = .inline text)
    (loads : (Target.inline text).load (sightOf store) = .ok document)
    (all : (load (sightOf store) environment selection).result = .ok loaded) (write : Bool) :
    ∃ earlier later, earlier.length = before.length ∧ later.length = after.length ∧
      loaded.map (Loaded.fix write) = earlier ++ inlineFix document :: later := by
  have nonempty : selection.settings ≠ [] := by simp [given]
  have all' : loadGiven (sightOf store) (selection.settings.map Target.ofInput) = .ok loaded := by
    rw [load_given _ _ nonempty] at all
    exact all
  have targets := targets_of_loadGiven all'
  rw [given, List.map_append, List.map_cons, inline] at targets
  obtain ⟨earlier, rest, rfl, before', rest'⟩ := List.map_eq_append_iff.mp targets
  obtain ⟨one, later, rfl, target, after'⟩ := List.map_eq_cons_iff.mp rest'
  have held := load_of_mem all one (List.mem_append_right _ List.mem_cons_self)
  have fix : one.fix write = inlineFix document := by
    obtain ⟨_, document'⟩ := one
    subst target
    obtain rfl : document' = document := Except.ok.inj (held.symm.trans loads)
    exact fix_inline write text document'
  refine ⟨earlier.map (Loaded.fix write), later.map (Loaded.fix write), ?_, ?_, ?_⟩
  · simpa using congrArg List.length before'
  · simpa using congrArg List.length after'
  · rw [List.map_append, List.map_cons, fix]

/-- The compact text of a value is an inline input that loads the value, has no issues and is fixed
already. -/
structure FedBack (settings : Value) : Prop where
  inline : Target.ofInput settings.compact = .inline settings.compact
  loads : ∀ look, (Target.inline settings.compact).load look = .ok settings
  check : ∀ store environment selection format, selection.settings = [settings.compact] →
    run store environment ⟨format, .check selection⟩ =
      ⟨[], .ok ⟨Report.checks format [⟨"<inline>", true, []⟩], .clean⟩, store⟩
  fix : ∀ store environment selection format write, selection.settings = [settings.compact] →
    run store environment ⟨format, .fix selection write⟩ =
      ⟨[], .ok ⟨Report.fixes format [⟨"<inline>", [], [], false, some settings⟩], .clean⟩, store⟩

theorem fedBack_repairedDocument (wellFormed : document.WellFormed) :
    FedBack (repairedDocument document) := by
  have inline : Target.ofInput (repairedDocument document).compact =
      .inline (repairedDocument document).compact := ofInput_compact _
  have loads := load_compact (repairedDocument_wellFormed wellFormed)
  refine ⟨inline, loads, ?_, ?_⟩
  · intro store environment selection format given
    rw [run_check_inline given inline (loads _), check, List.map_singleton,
      check_inline_repairedDocument]
    rfl
  · intro store environment selection format write given
    rw [run_fix_inline given inline (loads _), inlineFix_repairedDocument]

/-- The repaired document that a run of fixes reports for an inline input, wherever this stands among the
inputs, can be fed back: its compact text is an inline input that loads exactly this document, a check of
it finds nothing, and its own fix has nothing to do and reports the same document. -/
theorem inline_fix_fed_back (inline : Target.ofInput input = .inline text)
    (loads : (Target.inline text).load look = .ok document) :
    (∀ store environment selection before after loaded,
      selection.settings = before ++ input :: after →
      (load (sightOf store) environment selection).result = .ok loaded →
      ∀ format write, ∃ earlier later, earlier.length = before.length ∧ later.length = after.length ∧
        (run store environment ⟨format, .fix selection write⟩).result =
          .ok ⟨Report.fixes format (earlier ++ inlineFix document :: later), .clean⟩) ∧
    (∀ store environment selection, selection.settings = [input] → ∀ format write,
      run store environment ⟨format, .fix selection write⟩ =
        ⟨[], .ok ⟨Report.fixes format [inlineFix document], .clean⟩, store⟩) ∧
    FedBack (repair document).document := by
  refine ⟨?_, ?_, fedBack_repairedDocument (parseDocument_wellFormed loads)⟩
  · intro store environment selection before after loaded given all format write
    obtain ⟨earlier, later, before', after', fixes⟩ := fixes_of_inline given inline loads all write
    refine ⟨earlier, later, before', after', ?_⟩
    rw [run_fix_eq all, fixes]
  · intro store environment selection given format write
    exact run_fix_inline given inline loads format write

/-- The unfixed document with a trailing comma and a comment that holds a brace. -/
def unfixedByHand : String :=
  "\x7b\"permissions\":\x7b\"allow\":[\"Bash(ls:*)\",1,]//\x7d\n\x7d\x7d"

theorem edited_unfixedByHand : Edited unfixed unfixedByHand.toList := by
  refine ⟨[.openBrace, .text "permissions", .colon, .openBrace, .text "allow", .colon, .openBracket,
    .text "Bash(ls:*)", .comma, .number (.integer 1), .comma, .closeBracket, .closeBrace, .closeBrace],
    ?_, ?_⟩
  · have closed : Trailed [.number (.integer 1), .closeBracket, .closeBrace, .closeBrace]
        [.number (.integer 1), .comma, .closeBracket, .closeBrace, .closeBrace] :=
      .comma (by decide) (by decide) (.keep (.keep (.keep .none)))
    exact .keep (.keep (.keep (.keep (.keep (.keep (.keep (.keep (.keep closed))))))))
  · have comment : Gap "//\x7d\n".toList :=
      @Gap.lineComment ['}'] '\n' [] (Text.forall_mem_of_all (by decide)) (by decide) .none
    have closed : Arranged [.closeBrace, .closeBrace] "//\x7d\n\x7d\x7d".toList :=
      .token comment (.token .none (.last .none))
    exact .token .none (.token .none (.token .none (.token .none (.token .none (.token .none
      (.token .none (.token .none (.token .none (.token .none (.token .none (.token .none
        closed)))))))))))

/-- What the fix of this document reports, as the only input. -/
def refedSelection : Selection :=
  ⟨[(repair unfixed).document.compact], [], none, none⟩

theorem inline_fix_fed_back_unfixedByHand :
    Target.ofInput ("\u3000" ++ unfixedByHand ++ "\n") = .inline unfixedByHand ∧
    (Target.inline unfixedByHand).load (sightOf unfixedStore) = .ok unfixed ∧
    (repair unfixed).document.compact =
      "\x7b\"permissions\":\x7b\"allow\":[\"Bash(ls *)\"],\"ask\":[],\"deny\":[]\x7d\x7d" ∧
    run unfixedStore ⟨none, none, "/"⟩ ⟨.text, .check refedSelection⟩ =
      ⟨[], .ok ⟨"<inline>: ok\n", .clean⟩, unfixedStore⟩ := by
  have inline : Target.ofInput ("\u3000" ++ unfixedByHand ++ "\n") = .inline unfixedByHand := by
    decide +kernel
  have loads : (Target.inline unfixedByHand).load (sightOf unfixedStore) = .ok unfixed := by
    rw [Target.load, parseDocument, parse_edited unfixed_wellFormed edited_unfixedByHand]
    rfl
  have fedBack := (inline_fix_fed_back inline loads).2.2
  exact ⟨inline, loads, by decide +kernel, fedBack.check _ _ _ .text rfl⟩

end PermissionRules.Run
