import PermissionRules.Proofs.Decimal.Digits
import PermissionRules.Report.Checks

/-! Reports on the issues of documents as text. The text is that of the documents in order, and the text of a
document with issues cannot be taken for that of a document without. -/
namespace PermissionRules.Report
open Document Rules

def issueText (issue : Issue) : String :=
  "  " ++ issue.category.key ++ ": " ++ issue.pattern ++ "\n" ++
    "    error: " ++ issue.fault.message ++ "\n" ++
    issue.suggestion.elim "" fun suggestion => "    suggestion: " ++ suggestion ++ "\n"

/-- The block of a document with issues: their number, and each of them. -/
def issuesText (source : String) (issues : List Issue) : String :=
  source ++ ": " ++ toString issues.length ++ " issue(s)\n" ++ String.join (issues.map issueText)

def okText (source : String) : String :=
  source ++ ": ok\n"

def checkText (source : String) (issues : List Issue) : String :=
  if issues = [] then okText source else issuesText source issues

theorem unlines_nil : unlines [] = "" :=
  rfl

theorem unlines_cons (line : String) (lines : List String) :
    unlines (line :: lines) = line ++ "\n" ++ unlines lines := by
  rw [← String.toList_inj, unlines, unlines, String.toList_append, String.toList_ofList,
    String.toList_ofList, String.toList_append]
  rfl

theorem unlines_append (lines others : List String) :
    unlines (lines ++ others) = unlines lines ++ unlines others := by
  rw [← String.toList_inj, String.toList_append]
  simp only [unlines, String.toList_ofList, List.flatMap_append]

theorem unlines_flatMap {α : Type} (items : List α) (lines : α → List String) :
    unlines (items.flatMap lines) = String.join (items.map fun item => unlines (lines item)) := by
  induction items with
  | nil => rfl
  | cons item items ih =>
    rw [List.flatMap_cons, unlines_append, ih, List.map_cons, String.join_cons]

theorem unlines_eq_join (lines : List String) : unlines lines = String.join (lines.map (· ++ "\n")) := by
  induction lines with
  | nil => rfl
  | cons line lines ih => rw [unlines_cons, ih, List.map_cons, String.join_cons]

theorem unlines_issueLines (issue : Issue) : unlines (issueLines issue) = issueText issue := by
  obtain ⟨pattern, category, fault, suggestion⟩ := issue
  rw [issueLines, issueText, unlines_cons, unlines_cons]
  cases suggestion with
  | none => simp only [Option.toList_none, List.map_nil, unlines_nil, Option.elim_none, String.append_assoc]
  | some suggestion =>
    simp only [Option.toList_some, List.map_cons, List.map_nil, unlines_cons, unlines_nil,
      String.append_empty, Option.elim_some, String.append_assoc]

theorem unlines_lines (check : DocumentCheck) :
    unlines check.lines = checkText check.source check.issues := by
  rw [DocumentCheck.lines, checkText]
  by_cases none : check.issues = []
  · rw [if_pos none, if_pos (List.isEmpty_iff.mpr none), unlines_cons, unlines_nil, String.append_empty,
      okText, String.append_assoc]
    rfl
  · have block := unlines_flatMap check.issues issueLines
    simp only [unlines_issueLines] at block
    rw [if_neg none, if_neg (mt List.isEmpty_iff.mp none), unlines_cons, block, issuesText]
    simp only [String.append_assoc]
    rfl

theorem checks_text (documents : List DocumentCheck) :
    checks .text documents =
      String.join (documents.map fun check => checkText check.source check.issues) := by
  rw [checks, render, unlines_flatMap]
  simp only [unlines_lines]

/-- Behind the source a block of issues has their number, and a document without issues a word. -/
theorem okText_ne_issuesText (source : String) (issues : List Issue) (rest rest' : String) :
    okText source ++ rest ≠ issuesText source issues ++ rest' := by
  intro same
  have nonempty : (toString issues.length).toList ≠ [] := by
    rw [Nat.toString_eq_repr, Nat.toList_repr]
    exact Nat.toDigits_ne_nil
  obtain ⟨first, digits, number⟩ := List.exists_cons_of_ne_nil nonempty
  have word : ": ok\n" = ": " ++ "ok\n" := rfl
  simp only [okText, issuesText, word, String.append_assoc, String.append_right_inj] at same
  have start := congrArg String.toList same
  rw [String.toList_append, String.toList_append, number, List.cons_append] at start
  have first' : 'o' = first := (List.cons.inj start).1
  have letter : 'o' ∈ (toString issues.length).toList := number ▸ first' ▸ List.mem_cons_self
  exact absurd (Decimal.isDigit_of_mem_toString letter) (by decide)

/-- The text is one word for each document only if there are no issues. -/
theorem checks_text_eq_ok (documents : List DocumentCheck) : checks .text documents =
      String.join (documents.map fun check => okText check.source) ↔
    ∀ check ∈ documents, check.issues = [] := by
  rw [checks_text]
  induction documents with
  | nil => exact ⟨fun _ => nofun, fun _ => rfl⟩
  | cons check documents ih =>
    rw [List.map_cons, List.map_cons, String.join_cons, String.join_cons, List.forall_mem_cons, ← ih,
      checkText]
    by_cases none : check.issues = []
    · rw [if_pos none, String.append_right_inj, and_iff_right none]
    · rw [if_neg none]
      constructor
      · intro same
        exact absurd same.symm (okText_ne_issuesText _ _ _ _)
      · intro clean
        exact absurd clean.1 none

/-- Behind the texts of the documents before it, the block of a document stands there if it has issues, and
only then. -/
theorem checks_text_block (before after : List DocumentCheck) (check : DocumentCheck) :
    check.issues ≠ [] ↔ ∃ rest, checks .text (before ++ check :: after) = String.join (before.map fun check =>
      checkText check.source check.issues) ++ issuesText check.source check.issues ++ rest := by
  rw [checks_text, List.map_append, List.map_cons, String.join_append, String.join_cons, checkText]
  constructor
  · intro found
    rw [if_neg found]
    exact ⟨_, String.append_assoc.symm⟩
  · rintro ⟨rest, same⟩ none
    rw [if_pos none, String.append_assoc, String.append_right_inj] at same
    exact okText_ne_issuesText _ _ _ _ same

end PermissionRules.Report
