import PermissionRules.Proofs.Pattern.Migration
import PermissionRules.Proofs.Report.Checks
import PermissionRules.Proofs.Text.Lines
import PermissionRules.Report.Patterns
import Mathlib.Data.List.Forall2

/-! Reports on patterns as text. The text is that of the patterns in order. A pattern stands in it as it is, so
that a rejected pattern with line feeds has lines of its own behind that of its verdict; no other line can be
taken for a verdict. -/
namespace PermissionRules.Report
open Pattern Text

/-! ### Text -/

def patternText (check : PatternCheck) : String :=
  match check.fault with
  | none => "ok       " ++ check.pattern ++ "\n"
  | some fault =>
    "invalid  " ++ check.pattern ++ "\n" ++ "  error: " ++ fault.message ++ "\n" ++
      check.suggestion.elim "" fun suggestion => "  suggestion: " ++ suggestion ++ "\n"

theorem unlines_patternLines (check : PatternCheck) : unlines check.lines = patternText check := by
  obtain ⟨pattern, fault, suggestion⟩ := check
  cases fault with
  | none => simp only [PatternCheck.lines, patternText, unlines_cons, unlines_nil, String.append_empty]
  | some fault =>
    cases suggestion with
    | none =>
      simp only [PatternCheck.lines, patternText, unlines_cons, unlines_nil, Option.toList_none,
        List.map_nil, Option.elim_none, String.append_assoc]
    | some suggestion =>
      simp only [PatternCheck.lines, patternText, unlines_cons, unlines_nil, Option.toList_some,
        List.map_cons, List.map_nil, Option.elim_some, String.append_assoc, String.append_empty]

theorem patterns_text (checks : List PatternCheck) :
    patterns .text checks = String.join (checks.map patternText) := by
  rw [patterns, render, unlines_flatMap]
  simp only [unlines_patternLines]

/-! ### Lines of a check -/

theorem linesOf_unlines (lines : List String) : linesOf (unlines lines) = lines.flatMap linesOf ++ [""] := by
  rw [unlines_eq_join, linesOf_join]

def verdictMark (valid : Bool) : String :=
  if valid then "ok       " else "invalid  "

def details (check : PatternCheck) : List String :=
  match check.fault with
  | none => []
  | some fault => ("  error: " ++ fault.message) :: check.suggestion.toList.map ("  suggestion: " ++ ·)

theorem lines_eq (check : PatternCheck) :
    check.lines = (verdictMark check.isValid ++ check.pattern) :: details check := by
  obtain ⟨pattern, fault, suggestion⟩ := check
  cases fault with
  | none | some fault => rfl

theorem unbroken_of_isValid {pattern : String} (valid : isValid pattern = true) : '\n' ∉ pattern.toList := by
  obtain ⟨form, accepted⟩ := isValid_iff.mp valid
  exact (parse_eq_ok.mp accepted).1.lineFeed_not_mem

theorem unbroken_message {pattern : String} {fault : Fault} (refused : fault? pattern = some fault) :
    '\n' ∉ fault.message.toList := by
  cases fault with
  | empty | newline | tooLong | deprecatedColonStar => decide +kernel
  | invalidFormat shown =>
    -- This message holds the pattern; but it is only given for a pattern of one line.
    obtain ⟨rfl, line, _⟩ := parse_eq_invalidFormat.mp (fault?_eq_some.mp refused)
    have start : '\n' ∉ "Invalid pattern format: ".toList := by decide
    exact unbroken_append start line.lineFeed_not_mem

/-- The lines behind a verdict have no line feed, whatever the pattern is, and begin with a blank. -/
theorem details_plain (pattern : String) : ∀ line ∈ details (.ofPattern pattern),
    '\n' ∉ line.toList ∧ [' '] <+: line.toList := by
  have plain : ∀ (label text : String), '\n' ∉ label.toList → [' '] <+: label.toList →
      '\n' ∉ text.toList → '\n' ∉ (label ++ text).toList ∧ [' '] <+: (label ++ text).toList := by
    intro label text label' blank text'
    refine ⟨unbroken_append label' text', ?_⟩
    rw [String.toList_append]
    exact blank.trans (List.prefix_append _ _)
  intro line member
  rw [details, PatternCheck.ofPattern] at member
  cases refused : fault? pattern with
  | none =>
    rw [refused] at member
    contradiction
  | some fault =>
    simp only [refused, Option.isSome_some, if_true, List.mem_cons, List.mem_map, Option.mem_toList] at member
    rcases member with rfl | ⟨migrated, rewritten, rfl⟩
    · exact plain _ _ (by decide) (by decide) (unbroken_message refused)
    · exact plain _ _ (by decide) (by decide) (unbroken_of_isValid (isValid_of_migrate? rewritten))

/-! ### Lines with a mark -/

theorem verdictMark_length : ∀ valid, (verdictMark valid).toList.length = 9 := by
  decide

theorem verdictMark_inj : ∀ valid valid', verdictMark valid = verdictMark valid' → valid = valid' := by
  decide

theorem not_blank_verdictMark : ∀ valid, ¬ [' '] <+: (verdictMark valid).toList := by
  decide

theorem verdictMark_prefix_iff {valid valid' : Bool} {rest : String} :
    (verdictMark valid).toList <+: (verdictMark valid' ++ rest).toList ↔ valid' = valid := by
  rw [String.toList_append]
  constructor
  · rintro ⟨rest', same⟩
    have length := (verdictMark_length valid).trans (verdictMark_length valid').symm
    have marks := List.append_inj_left same length
    exact (verdictMark_inj _ _ (String.toList_inj.mp marks)).symm
  · rintro rfl
    exact List.prefix_append _ _

theorem marked_details (valid : Bool) (pattern : String) :
    marked (verdictMark valid) ((details (.ofPattern pattern)).flatMap linesOf) = [] := by
  rw [marked, List.filter_eq_nil_iff]
  intro line member
  obtain ⟨detail, found, member⟩ := List.mem_flatMap.mp member
  obtain ⟨unbroken, blank⟩ := details_plain pattern detail found
  rw [linesOf_of_not_mem unbroken, List.mem_singleton] at member
  rw [member, decide_eq_true_eq]
  intro starts
  have short : [' '].length ≤ (verdictMark valid).toList.length := by
    rw [verdictMark_length]
    decide
  exact not_blank_verdictMark valid (List.prefix_of_prefix_length_le blank starts short)

/-- The lines with a mark that a pattern has in the report. -/
def verdictPart (valid : Bool) (pattern : String) : List String :=
  (if isValid pattern == valid then [verdictMark valid ++ firstLine pattern] else []) ++
    marked (verdictMark valid) (laterLines pattern)

theorem marked_lines (valid : Bool) (pattern : String) :
    marked (verdictMark valid) ((PatternCheck.ofPattern pattern).lines.flatMap linesOf) =
      verdictPart valid pattern := by
  have unbroken : '\n' ∉ (verdictMark (isValid pattern)).toList := by
    cases isValid pattern with
    | true | false => decide
  have verdict : (PatternCheck.ofPattern pattern).isValid = isValid pattern := rfl
  have text : (PatternCheck.ofPattern pattern).pattern = pattern := rfl
  rw [lines_eq, List.flatMap_cons, verdict, text, linesOf_append unbroken, marked_append, marked_details,
    List.append_nil, verdictPart]
  rw [marked, List.filter_cons]
  simp only [verdictMark_prefix_iff, beq_iff_eq, decide_eq_true_eq]
  split
  case isTrue same =>
    rw [same]
    rfl
  case isFalse => rfl

theorem verdictPart_of_isValid {pattern : String} (accepted : isValid pattern = true) (valid : Bool) :
    verdictPart valid pattern = if valid then [verdictMark true ++ pattern] else [] := by
  have unbroken := unbroken_of_isValid accepted
  rw [verdictPart, firstLine_of_not_mem unbroken, laterLines_of_not_mem unbroken, accepted]
  cases valid with
  | true | false => rfl

/-! ### Texts and messages told apart -/

theorem head?_message (fault : Fault) : ∃ first, fault.message.toList.head? = some first ∧
    (first = 'T' ↔ fault = .deprecatedColonStar) := by
  cases fault with
  | empty | newline | tooLong => exact ⟨'P', by decide +kernel, by decide⟩
  | deprecatedColonStar => exact ⟨'T', by decide +kernel, by decide⟩
  | invalidFormat shown =>
    have message : (Fault.invalidFormat shown).message = "Invalid pattern format: " ++ shown := rfl
    have start : "Invalid pattern format: ".toList.head? = some 'I' := by decide
    refine ⟨'I', ?_, iff_of_false (by decide) nofun⟩
    rw [message, String.toList_append, List.head?_append, start, Option.some_or]

/-- No other message begins like that of a deprecated pattern. -/
theorem eq_deprecated_of_message {fault : Fault} {rest rest' : String}
    (same : fault.message ++ rest = Fault.deprecatedColonStar.message ++ rest') :
    fault = .deprecatedColonStar := by
  obtain ⟨first, start, told⟩ := head?_message fault
  obtain ⟨first', start', told'⟩ := head?_message .deprecatedColonStar
  have letters := congrArg (·.toList.head?) same
  simp only [String.toList_append, List.head?_append, start, start', Option.some_or, Option.some.injEq] at letters
  exact told.mp (letters.trans (told'.mpr rfl))

theorem length_message_pos (fault : Fault) : 0 < fault.message.length := by
  obtain ⟨first, start, _⟩ := head?_message fault
  rw [← String.length_toList, List.length_pos_iff]
  intro none
  rw [none] at start
  contradiction

theorem patternText_start (check : PatternCheck) :
    ∃ rest, patternText check = verdictMark check.isValid ++ rest := by
  obtain ⟨pattern, fault, suggestion⟩ := check
  cases fault with
  | none => exact ⟨pattern ++ "\n", String.append_assoc⟩
  | some fault =>
    simp only [patternText, String.append_assoc]
    exact ⟨_, rfl⟩

theorem isValid_of_patternText {check other : PatternCheck} (same : patternText check = patternText other) :
    check.isValid = other.isValid := by
  obtain ⟨rest, text⟩ := patternText_start check
  obtain ⟨rest', text'⟩ := patternText_start other
  have starts : (verdictMark other.isValid).toList <+: (verdictMark check.isValid ++ rest).toList := by
    rw [← text, same, text', String.toList_append]
    exact List.prefix_append _ _
  exact verdictMark_prefix_iff.mp starts

theorem deprecated_of_patternText {check : PatternCheck} {suggestion : Option String}
    (same : patternText check = patternText ⟨check.pattern, some .deprecatedColonStar, suggestion⟩) :
    check.fault = some .deprecatedColonStar := by
  have invalid := isValid_of_patternText same
  obtain ⟨pattern, fault, suggestion'⟩ := check
  cases fault with
  | none => contradiction
  | some fault =>
    simp only [patternText, String.append_assoc, String.append_right_inj] at same
    rw [eq_deprecated_of_message same]

/-! ### Reports -/

/-- The lines of the report on some patterns that begin with the mark of a verdict. -/
def verdictLines (valid : Bool) (given : List String) : List String :=
  marked (verdictMark valid) (linesOf (patterns .text (given.map .ofPattern)))

/-- Each valid pattern has one line that begins as that of a valid pattern, in order, and there are as many
lines that begin as that of an invalid pattern as there are invalid patterns. -/
structure Unforged (given : List String) : Prop where
  ok : List.Forall₂ (fun pattern line => pattern.toList <:+ line.toList)
    (given.filter isValid) (verdictLines true given)
  invalid : (verdictLines false given).length = (given.filter (!isValid ·)).length

theorem verdictLines_eq (valid : Bool) (given : List String) :
    verdictLines valid given = given.flatMap (verdictPart valid) := by
  have last : marked (verdictMark valid) [""] = [] := by
    cases valid with
    | true | false => decide
  rw [verdictLines, patterns, render, linesOf_unlines, marked_append, last, List.append_nil,
    List.flatMap_map, List.flatMap_assoc, marked, List.filter_flatMap]
  congr 1
  funext pattern
  exact marked_lines valid pattern

/-- A line of the pattern that begins like the line of a verdict, behind a line feed. -/
def Forges (pattern : String) : Prop :=
  ∃ line ∈ laterLines pattern, ∃ valid, (verdictMark valid).toList <+: line.toList

theorem not_forges_iff {pattern : String} :
    ¬ Forges pattern ↔ ∀ valid, marked (verdictMark valid) (laterLines pattern) = [] := by
  simp only [Forges, marked, List.filter_eq_nil_iff, decide_eq_true_eq, not_exists, not_and]
  constructor
  · intro honest valid line member
    exact honest line member valid
  · intro honest line member valid
    exact honest valid line member

theorem length_verdictLines_eq_iff (valid : Bool) (given : List String) :
    (verdictLines valid given).length = (given.filter (isValid · == valid)).length ↔
      ∀ pattern ∈ given, marked (verdictMark valid) (laterLines pattern) = [] := by
  rw [verdictLines_eq]
  exact length_flatMap_parts_eq_iff

theorem verdictLines_of_honest {given : List String} (honest : ∀ pattern ∈ given, ¬ Forges pattern)
    (valid : Bool) : verdictLines valid given =
      (given.filter (isValid · == valid)).map (verdictMark valid ++ firstLine ·) := by
  rw [verdictLines_eq]
  exact flatMap_parts fun pattern member => not_forges_iff.mp (honest pattern member) valid

theorem unforged_iff (given : List String) : Unforged given ↔ ∀ pattern ∈ given, ¬ Forges pattern := by
  have accepted : given.filter (isValid · == true) = given.filter isValid := by
    simp only [beq_true]
  have refused : given.filter (isValid · == false) = given.filter (!isValid ·) := by
    simp only [beq_false]
  constructor
  · rintro ⟨ok, invalid⟩ pattern member
    refine not_forges_iff.mpr ?_
    intro valid
    refine (length_verdictLines_eq_iff valid given).mp ?_ pattern member
    cases valid with
    | true => rw [accepted, ok.length_eq]
    | false => rw [refused, invalid]
  · intro honest
    constructor
    · rw [verdictLines_of_honest honest, accepted, List.forall₂_map_right_iff, List.forall₂_same]
      intro pattern member
      have unbroken := unbroken_of_isValid (List.mem_filter.mp member).2
      rw [firstLine_of_not_mem unbroken, String.toList_append]
      exact List.suffix_append _ _
    · rw [verdictLines_of_honest honest, refused, List.length_map]

theorem fault?_of_forges {pattern : String} (forges : Forges pattern) :
    fault? pattern = some .newline := by
  obtain ⟨line, member, valid, starts⟩ := forges
  have broken : '\n' ∈ pattern.toList := by
    by_contra unbroken
    rw [laterLines_of_not_mem unbroken] at member
    contradiction
  -- A blank text is refused as empty, whatever its line breaks are; but a mark is not blank.
  have letter : ∃ c ∈ (verdictMark valid).toList, c.toNat ∉ whiteSpace := by
    cases valid with
    | true => exact ⟨'o', by decide, by decide⟩
    | false => exact ⟨'i', by decide, by decide⟩
  obtain ⟨c, member', visible⟩ := letter
  have filled : ¬ Blank pattern := by
    intro blank
    exact visible (blank c (subset_of_mem_laterLines member (starts.subset member')))
  exact fault?_eq_some.mpr (parse_eq_newline.mpr ⟨filled, .inl broken⟩)

/-- The lines that begin like verdicts are the verdicts, in order, and such lines of the patterns themselves,
each behind the verdict of its pattern. Only a pattern that is rejected for its line breaks has such a line,
and where none does, every pattern has one line in the report that looks like a verdict. -/
theorem verdict_lines_exact (given : List String) :
    (∀ valid, verdictLines valid given = given.flatMap (verdictPart valid)) ∧
    (∀ pattern ∈ given, isValid pattern = true → ∀ valid,
      verdictPart valid pattern = if valid then [verdictMark true ++ pattern] else []) ∧
    (Unforged given ↔ ∀ pattern ∈ given, ¬ Forges pattern) ∧
    (∀ pattern ∈ given, Forges pattern → fault? pattern = some .newline) ∧
    ((∀ pattern ∈ given, '\n' ∉ pattern.toList) → ∀ valid,
      verdictLines valid given = (given.filter (isValid · == valid)).map (verdictMark valid ++ ·)) := by
  refine ⟨fun valid => verdictLines_eq valid given, ?_, unforged_iff given, ?_, ?_⟩
  · intro pattern _ accepted
    exact verdictPart_of_isValid accepted
  · intro pattern _ forges
    exact fault?_of_forges forges
  · intro unbroken valid
    have honest : ∀ pattern ∈ given, ¬ Forges pattern := by
      rintro pattern member ⟨line, later, _⟩
      rw [laterLines_of_not_mem (unbroken pattern member)] at later
      contradiction
    rw [verdictLines_of_honest honest]
    refine List.map_congr_left ?_
    intro pattern member
    rw [firstLine_of_not_mem (unbroken pattern (List.mem_filter.mp member).1)]

/-- What looks like a verdict forges none if it is all of a pattern. -/
theorem verdict_lines_exact_oneLine : (∀ pattern ∈ ["Read", "ok       Read"], '\n' ∉ pattern.toList) ∧
    verdictLines true ["Read", "ok       Read"] = ["ok       Read"] ∧
    verdictLines false ["Read", "ok       Read"] = ["invalid  ok       Read"] := by
  have unbroken : ∀ pattern ∈ ["Read", "ok       Read"], '\n' ∉ pattern.toList := by decide
  have lines := (verdict_lines_exact _).2.2.2.2 unbroken
  exact ⟨unbroken, lines true, lines false⟩

/-- A rejected pattern with a line of its own. -/
theorem forged_verdict : isValid "x\nok       Read" = false ∧
    verdictLines true ["x\nok       Read"] = ["ok       Read"] ∧ ¬ Unforged ["x\nok       Read"] := by
  have refused : isValid "x\nok       Read" = false := by decide
  have forged : verdictLines true ["x\nok       Read"] = ["ok       Read"] := by decide
  refine ⟨refused, forged, ?_⟩
  rintro ⟨ok, _⟩
  have length := ok.length_eq
  rw [forged, List.filter_cons_of_neg (Bool.eq_false_iff.mp refused), List.filter_nil] at length
  exact absurd length (by decide)

end PermissionRules.Report
