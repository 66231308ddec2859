import PermissionRules.Proofs.Run.Saving
import PermissionRules.Proofs.Text.Lines

/-! What a run says beside its report. A run on documents says which targets it skipped and what it changed in the
files that it saved, one warning after the other, and in the end the error that stopped it. A warning stands in
the text as it is, so that one with line feeds has further lines behind its first; these are the only lines that
may be taken for other warnings. -/
namespace PermissionRules.Run
open CommandLine Document Files Report Rules Settings Text

/-! ### Texts -/

/-- The text of one warning. -/
def warningText (terminal : Bool) (message : String) : String :=
  if terminal then Text.yellow ++ ("Warning: " ++ message) ++ Text.plainColour ++ "\n"
  else "Warning: " ++ message ++ "\n"

/-- The text of the error that ended a run. -/
def errorText (terminal : Bool) (message : String) : String :=
  if terminal then Text.red ++ ("Error: " ++ message) ++ Text.plainColour ++ "\n"
  else "Error: " ++ message ++ "\n"

theorem render_warning {notice : Notice} (warning : notice.severity = .warning) (terminal : Bool) :
    notice.render terminal = warningText terminal notice.message := by
  have label : Severity.warning.label ++ ": " = "Warning: " := rfl
  rw [Notice.render, warning, label, warningText]
  cases terminal with
  | true | false => rfl

theorem render_failed (error : RunError) (terminal : Bool) :
    (Notice.failed error).render terminal = errorText terminal error.message := by
  have label : Severity.error.label ++ ": " = "Error: " := rfl
  have severity : (Notice.failed error).severity = .error := rfl
  rw [Notice.render, severity, label, errorText]
  cases terminal with
  | true | false => rfl

/-- What a warning of a run on documents is about. -/
inductive Topic where
  | skipped
  | migrated
  | removed
  deriving DecidableEq

/-- The words with which a warning begins. -/
def Topic.words : Topic → String
  | skipped => "Skipping settings "
  | migrated => "Migrated permission pattern in "
  | removed => "Removed invalid permission pattern from "

structure Warning where
  topic : Topic
  rest : String

def Warning.text (terminal : Bool) (warning : Warning) : String :=
  warningText terminal (warning.topic.words ++ warning.rest)

def Skipped.warning (one : Skipped) : Warning :=
  ⟨.skipped, one.target.display ++ ": " ++ one.fault.message⟩

def migrationWarning (target : Target) (migration : Migration) : Warning :=
  ⟨.migrated, target.display ++ ": " ++ migration.pattern ++ " -> " ++ migration.migrated⟩

def removalWarning (target : Target) (removal : Removal) : Warning :=
  ⟨.removed, removal.category.key ++ " in " ++ target.display ++ ": " ++ removal.pattern ++
    " (" ++ removal.fault.message ++ ")"⟩

/-- The warnings about a document: the migrations in it, then the removals from it, if it is saved. -/
def Loaded.warnings (write : Bool) (one : Loaded) : List Warning :=
  if (one.fix write).written then
    (repair one.document).migrated.map (migrationWarning one.target) ++
      (repair one.document).removed.map (removalWarning one.target)
  else []

/-- The warnings of a run of fixes. -/
def fixWarnings (write : Bool) (skipped : List Skipped) (loaded : List Loaded) : List Warning :=
  skipped.map Skipped.warning ++ loaded.flatMap (Loaded.warnings write)

def warningsText (terminal : Bool) (warnings : List Warning) : String :=
  String.join (warnings.map (Warning.text terminal))

theorem warningsText_append (terminal : Bool) (warnings others : List Warning) :
    warningsText terminal (warnings ++ others) =
      warningsText terminal warnings ++ warningsText terminal others := by
  rw [warningsText, List.map_append, String.join_append]
  rfl

theorem render_skipped (one : Skipped) (terminal : Bool) :
    (Notice.skipped one.target one.fault).render terminal = one.warning.text terminal := by
  have message := calc (Notice.skipped one.target one.fault).message
    _ = "Skipping settings " ++ one.target.display ++ ": " ++ one.fault.message := rfl
    _ = "Skipping settings " ++ (one.target.display ++ ": " ++ one.fault.message) := by
      simp only [String.append_assoc]
    _ = one.warning.topic.words ++ one.warning.rest := rfl
  rw [render_warning rfl, message, Warning.text]

theorem render_migrated (target : Target) (migration : Migration) (terminal : Bool) :
    (Notice.migrated target migration).render terminal = (migrationWarning target migration).text terminal := by
  have message := calc (Notice.migrated target migration).message
    _ = "Migrated permission pattern in " ++ target.display ++ ": " ++ migration.pattern ++ " -> " ++
      migration.migrated := rfl
    _ = "Migrated permission pattern in " ++
        (target.display ++ ": " ++ migration.pattern ++ " -> " ++ migration.migrated) := by
      simp only [String.append_assoc]
    _ = (migrationWarning target migration).topic.words ++ (migrationWarning target migration).rest := rfl
  rw [render_warning rfl, message, Warning.text]

theorem render_removed (target : Target) (removal : Removal) (terminal : Bool) :
    (Notice.removed target removal).render terminal = (removalWarning target removal).text terminal := by
  have message := calc (Notice.removed target removal).message
    _ = "Removed invalid permission pattern from " ++ removal.category.key ++ " in " ++ target.display ++
      ": " ++ removal.pattern ++ " (" ++ removal.fault.message ++ ")" := rfl
    _ = "Removed invalid permission pattern from " ++ (removal.category.key ++ " in " ++ target.display ++
        ": " ++ removal.pattern ++ " (" ++ removal.fault.message ++ ")") := by
      simp only [String.append_assoc]
    _ = (removalWarning target removal).topic.words ++ (removalWarning target removal).rest := rfl
  rw [render_warning rfl, message, Warning.text]

theorem map_render_skippedNotices (loading : Loading) (terminal : Bool) :
    loading.skippedNotices.map (·.render terminal) =
      (loading.skipped.map Skipped.warning).map (Warning.text terminal) := by
  rw [Loading.skippedNotices, List.map_map, List.map_map]
  exact List.map_congr_left fun one _ => render_skipped one terminal

theorem map_render_savedNotices (write : Bool) (one : Loaded) (terminal : Bool) :
    (one.savedNotices write).map (·.render terminal) = (one.warnings write).map (Warning.text terminal) := by
  have written : (one.fix write).written = (one.savedTo? write).isSome := rfl
  rw [Loaded.savedNotices, Loaded.warnings, written]
  split
  · simp only [Loaded.changeNotices, List.map_append, List.map_map]
    congr 1
    · exact List.map_congr_left fun migration _ => render_migrated one.target migration terminal
    · exact List.map_congr_left fun removal _ => render_removed one.target removal terminal
  · rfl

variable {store : Store} {environment : Environment} {selection : Selection} {loaded : List Loaded}

theorem diagnostics_of_load_error {error : RunError} {command : Command}
    (fails : (load (sightOf store) environment selection).result = .error error)
    (works : WorksOn selection command) (format : Format) (terminal : Bool) :
    (run store environment ⟨format, command⟩).diagnostics terminal =
      warningsText terminal ((load (sightOf store) environment selection).skipped.map Skipped.warning) ++
        errorText terminal error.message := by
  rw [run_of_load_error fails works, Outcome.diagnostics, Outcome.allNotices, List.map_append,
    map_render_skippedNotices, String.join_append, List.map_singleton, String.join_cons, String.join_nil,
    String.append_empty, render_failed]
  rfl

theorem diagnostics_check (loads : (load (sightOf store) environment selection).result = .ok loaded)
    (format : Format) (terminal : Bool) :
    (run store environment ⟨format, .check selection⟩).diagnostics terminal =
      warningsText terminal ((load (sightOf store) environment selection).skipped.map Skipped.warning) := by
  rw [run_check_eq loads, Outcome.diagnostics]
  exact congrArg String.join (map_render_skippedNotices _ terminal)

theorem diagnostics_fix (loads : (load (sightOf store) environment selection).result = .ok loaded)
    (format : Format) (write terminal : Bool) :
    (run store environment ⟨format, .fix selection write⟩).diagnostics terminal =
      warningsText terminal (fixWarnings write (load (sightOf store) environment selection).skipped loaded) := by
  rw [run_fix_eq loads, Outcome.diagnostics, Outcome.allNotices, warningsText, fixWarnings]
  simp only [List.map_append, List.map_flatMap, map_render_skippedNotices, map_render_savedNotices]

/-! ### Lines -/

def opening (terminal : Bool) : String :=
  (if terminal then Text.yellow else "") ++ "Warning: "

def closing (terminal : Bool) : String :=
  if terminal then Text.plainColour else ""

/-- How a warning with a topic begins. -/
def Topic.mark (terminal : Bool) (topic : Topic) : String :=
  opening terminal ++ topic.words

/-- Whether a line begins like a warning with one of some topics. -/
def isAbout (terminal : Bool) (topics : List Topic) (line : String) : Bool :=
  ∃ topic ∈ topics, (topic.mark terminal).toList <+: line.toList

def linesAbout (terminal : Bool) (topics : List Topic) (text : String) : List String :=
  (linesOf text).filter (isAbout terminal topics)

namespace Warning

/-- A warning without the line feed at its end. -/
def line (terminal : Bool) (warning : Warning) : String :=
  warning.topic.mark terminal ++ (warning.rest ++ closing terminal)

def firstLine (terminal : Bool) (warning : Warning) : String :=
  warning.topic.mark terminal ++ Text.firstLine (warning.rest ++ closing terminal)

/-- The further lines of a warning that begin like warnings with some topics. -/
def forged (terminal : Bool) (topics : List Topic) (warning : Warning) : List String :=
  (laterLines (warning.rest ++ closing terminal)).filter (isAbout terminal topics)

end Warning

/-- What the lines of warnings tell. Those that begin like warnings with some topics are the first lines of these
warnings, in order, and behind the first line of any warning such further lines of it as begin so. If there are
no such further lines, and only then, there is one line for each of the warnings; and all lines are those of
the warnings if none of them holds a line feed. -/
structure TellsLines (terminal : Bool) (warnings : List Warning) (text : String) : Prop where
  about : ∀ topics, linesAbout terminal topics text = warnings.flatMap fun warning =>
    (if topics.contains warning.topic then [warning.firstLine terminal] else []) ++
      warning.forged terminal topics
  counted : ∀ topics, (linesAbout terminal topics text).length =
      (warnings.filter (topics.contains ·.topic)).length ↔
    ∀ warning ∈ warnings, warning.forged terminal topics = []
  unforged : ∀ topics, (∀ warning ∈ warnings, warning.forged terminal topics = []) →
    linesAbout terminal topics text =
      (warnings.filter (topics.contains ·.topic)).map (Warning.firstLine terminal)
  unbroken : (∀ warning ∈ warnings, '\n' ∉ warning.rest.toList) →
    linesOf text = warnings.map (Warning.line terminal) ++ [""]

theorem unbroken_opening : ∀ terminal, '\n' ∉ (opening terminal).toList := by
  decide

theorem unbroken_closing : ∀ terminal, '\n' ∉ (closing terminal).toList := by
  decide

theorem Topic.unbroken_mark (terminal : Bool) (topic : Topic) : '\n' ∉ (topic.mark terminal).toList := by
  have words : '\n' ∉ topic.words.toList := by
    cases topic with
    | skipped | migrated | removed => decide
  exact unbroken_append (unbroken_opening terminal) words

theorem Topic.eq_of_head?_words : ∀ topic topic' : Topic,
    topic.words.toList.head? = topic'.words.toList.head? → topic = topic' := by
  intro topic topic'
  cases topic <;> cases topic' <;> decide

/-- The topics differ in the first letter of their words. -/
theorem Topic.mark_prefix_iff {terminal : Bool} {topic topic' : Topic} {rest : String} :
    (topic.mark terminal).toList <+: (topic'.mark terminal ++ rest).toList ↔ topic = topic' := by
  simp only [mark, String.toList_append, List.append_assoc, List.prefix_append_right_inj]
  constructor
  · rintro ⟨tail, same⟩
    have filled : ∀ topic : Topic, ∃ first, topic.words.toList.head? = some first := by
      intro topic
      cases topic with
      | skipped | migrated | removed => exact ⟨_, rfl⟩
    obtain ⟨first, head⟩ := filled topic
    obtain ⟨first', head'⟩ := filled topic'
    have heads := congrArg List.head? same
    rw [List.head?_append, List.head?_append, head, head', Option.some_or, Option.some_or] at heads
    exact eq_of_head?_words topic topic' (head.trans (heads.trans head'.symm))
  · rintro rfl
    exact List.prefix_append _ _

theorem Topic.mark_ne_empty (terminal : Bool) (topic : Topic) : (topic.mark terminal).toList ≠ [] := by
  cases terminal with
  | true | false => cases topic <;> decide

namespace Warning
variable {terminal : Bool} {warning : Warning}

theorem text_eq (terminal : Bool) (warning : Warning) :
    warning.text terminal = warning.line terminal ++ "\n" := by
  cases terminal with
  | true | false => simp [text, warningText, line, Topic.mark, opening, closing, String.append_assoc]

theorem linesOf_line (terminal : Bool) (warning : Warning) : linesOf (warning.line terminal) =
    warning.firstLine terminal :: laterLines (warning.rest ++ closing terminal) :=
  linesOf_append (warning.topic.unbroken_mark terminal) _

theorem isAbout_firstLine (terminal : Bool) (topics : List Topic) (warning : Warning) :
    isAbout terminal topics (warning.firstLine terminal) = topics.contains warning.topic := by
  rw [Bool.eq_iff_iff, List.contains_iff_mem]
  simp only [isAbout, firstLine, Topic.mark_prefix_iff, exists_eq_right, decide_eq_true_eq]

theorem linesAbout_line (terminal : Bool) (topics : List Topic) (warning : Warning) :
    linesAbout terminal topics (warning.line terminal) =
      (if topics.contains warning.topic then [warning.firstLine terminal] else []) ++
        warning.forged terminal topics := by
  rw [linesAbout, linesOf_line, List.filter_cons, isAbout_firstLine, forged]
  split
  · rfl
  · rfl

end Warning

theorem linesOf_warningsText (terminal : Bool) (warnings : List Warning) :
    linesOf (warningsText terminal warnings) =
      (warnings.flatMap fun warning => linesOf (warning.line terminal)) ++ [""] := by
  have texts : warnings.map (Warning.text terminal) =
      (warnings.map (Warning.line terminal)).map (· ++ "\n") := by
    rw [List.map_map]
    exact List.map_congr_left fun warning _ => warning.text_eq terminal
  rw [warningsText, texts, linesOf_join, List.flatMap_map]

theorem linesAbout_warningsText (terminal : Bool) (topics : List Topic) (warnings : List Warning) :
    linesAbout terminal topics (warningsText terminal warnings) = warnings.flatMap fun warning =>
      (if topics.contains warning.topic then [warning.firstLine terminal] else []) ++
        warning.forged terminal topics := by
  have empty : isAbout terminal topics "" = false := by
    simp only [isAbout, decide_eq_false_iff_not, not_exists, not_and]
    intro topic _ starts
    exact topic.mark_ne_empty terminal (List.prefix_nil.mp starts)
  have last : [""].filter (isAbout terminal topics) = [] := by
    rw [List.filter_singleton, empty]
    rfl
  rw [linesAbout, linesOf_warningsText, List.filter_append, last, List.append_nil, List.filter_flatMap]
  exact List.flatMap_congr fun warning _ => Warning.linesAbout_line terminal topics warning

theorem tellsLines (terminal : Bool) (warnings : List Warning) :
    TellsLines terminal warnings (warningsText terminal warnings) where
  about topics := linesAbout_warningsText terminal topics warnings
  counted := by
    intro topics
    rw [linesAbout_warningsText]
    exact length_flatMap_parts_eq_iff
  unforged := by
    intro topics none
    rw [linesAbout_warningsText]
    exact flatMap_parts none
  unbroken := by
    intro unbroken
    rw [linesOf_warningsText, List.map_eq_flatMap]
    congr 1
    apply List.flatMap_congr
    intro warning member
    have whole := unbroken_append (unbroken warning member) (unbroken_closing terminal)
    rw [warning.linesOf_line, laterLines_of_not_mem whole, Warning.firstLine, firstLine_of_not_mem whole]
    rfl

end PermissionRules.Run
