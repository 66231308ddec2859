import PermissionRules.Pattern.Grammar
import PermissionRules.Proofs.Text.Runs

/-! The productions of the grammar. A call is split at its first parenthesis and a subcommand at its
first colon, where their tools end; since neither character can stand in a tool, nor a parenthesis in the
name of a subcommand, the splits read each text as the one form that it is the spelling of. -/
namespace PermissionRules.Pattern
open Text

def IsLetter (c : Char) : Prop :=
  ('A' ≤ c ∧ c ≤ 'Z') ∨ ('a' ≤ c ∧ c ≤ 'z')

def IsDigit (c : Char) : Prop :=
  '0' ≤ c ∧ c ≤ '9'

/-- `[A-Za-z_][A-Za-z0-9_]*` -/
def Identifier (text : String) : Prop :=
  ∃ first rest, text.toList = first :: rest ∧ (IsLetter first ∨ first = '_') ∧
    ∀ c ∈ rest, IsLetter c ∨ IsDigit c ∨ c = '_'

/-- `\*|[A-Za-z0-9_-]+` -/
def SubcommandName (name : String) : Prop :=
  name = "*" ∨ name ≠ "" ∧ ∀ c ∈ name.toList, IsLetter c ∨ IsDigit c ∨ c = '_' ∨ c = '-'

/-- The productions. An argument may hold any characters, parentheses included. -/
inductive Spells : String → Form → Prop where
  | call {tool argument} : Identifier tool → argument ≠ "" →
      Spells (tool ++ "(" ++ argument ++ ")") (.call tool argument)
  | subcommand {tool name} : Identifier tool → SubcommandName name →
      Spells (tool ++ ":" ++ name) (.subcommand tool name)
  | bare {tool} : Identifier tool → Spells tool (.bare tool)

/-- A call of a tool other than `MCP` whose argument ends in a colon and a star. -/
inductive Form.Deprecated : Form → Prop where
  | call {tool start} : tool ≠ "MCP" → Deprecated (.call tool (start ++ ":*"))

theorem isAlpha_iff {c : Char} : c.isAlpha = true ↔ IsLetter c := by
  have ranges : c.isAlpha =
      (decide ('A' ≤ c ∧ c ≤ 'Z') || (decide ('a' ≤ c) && decide (c ≤ 'z'))) := rfl
  simp only [ranges, Bool.or_eq_true, Bool.and_eq_true, decide_eq_true_eq, IsLetter]

theorem isDigit_iff {c : Char} : c.isDigit = true ↔ IsDigit c := by
  have range : c.isDigit = (decide ('0' ≤ c) && decide (c ≤ '9')) := rfl
  simp only [range, Bool.and_eq_true, decide_eq_true_eq, IsDigit]

theorem isToolStart_iff {c : Char} : isToolStart c = true ↔ IsLetter c ∨ c = '_' := by
  rw [isToolStart, Bool.or_eq_true, isAlpha_iff, beq_iff_eq]

theorem isToolRest_iff {c : Char} : isToolRest c = true ↔ IsLetter c ∨ IsDigit c ∨ c = '_' := by
  rw [isToolRest, Char.isAlphanum, Bool.or_eq_true, Bool.or_eq_true, isAlpha_iff, isDigit_iff,
    beq_iff_eq, or_assoc]

theorem isToolName_iff {text : String} : isToolName text.toList = true ↔ Identifier text := by
  unfold Identifier
  cases text.toList with
  | nil => simp [isToolName]
  | cons first rest =>
    simp only [isToolName, Bool.and_eq_true, isToolStart_iff, List.all_eq_true, isToolRest_iff]
    constructor
    · intro characters
      exact ⟨first, rest, rfl, characters⟩
    · rintro ⟨_, _, ⟨⟩, characters⟩
      exact characters

theorem isSubcommandName_iff {name : String} :
    isSubcommandName name.toList = true ↔ SubcommandName name := by
  have star : name.toList = ['*'] ↔ name = "*" := by
    rw [← String.toList_inj]
    rfl
  simp only [isSubcommandName, SubcommandName, Bool.or_eq_true, Bool.and_eq_true, beq_iff_eq,
    star, List.all_eq_true, isToolRest_iff, or_assoc, Bool.not_eq_true', List.isEmpty_eq_false_iff,
    ne_eq, String.toList_eq_nil_iff]

variable {text tool argument name : List Char}

theorem isToolRest_of_isToolName (name : isToolName tool = true) :
    ∀ c ∈ tool, isToolRest c = true := by
  cases tool with
  | nil => contradiction
  | cons first rest =>
    simp only [isToolName, isToolStart, Bool.and_eq_true, Bool.or_eq_true, List.all_eq_true] at name
    intro c member
    rcases List.mem_cons.mp member with rfl | member
    · simp only [isToolRest, Char.isAlphanum, Bool.or_eq_true]
      exact name.1.imp_left .inl
    · exact name.2 c member

theorem isToolName_ne (name : isToolName tool = true) (stop : Char)
    (outside : isToolRest stop = false) : ∀ c ∈ tool, (c != stop) = true := by
  intro c member
  rw [bne_iff_ne]
  rintro rfl
  exact absurd (isToolRest_of_isToolName name _ member) (Bool.not_eq_true _ ▸ outside)

/-- A call splits into its tool and its argument. -/
theorem splitCall_complete (name : isToolName tool = true) (filled : argument ≠ []) :
    splitCall (tool ++ '(' :: (argument ++ [')'])) = some (tool, argument) := by
  have inside := isToolName_ne name '(' (by decide)
  have stop : ∀ c ∈ ('(' :: (argument ++ [')'])).head?, (c != '(') = false := by
    rintro c ⟨⟩
    rfl
  rw [splitCall, dropWhile_run inside stop, takeWhile_run inside stop]
  simp [name, filled]

theorem splitCall_sound (split : splitCall text = some (tool, argument)) :
    isToolName tool = true ∧ argument ≠ [] ∧ text = tool ++ '(' :: (argument ++ [')']) := by
  unfold splitCall at split
  split at split
  case h_1 body start =>
    simp only [Option.ite_none_right_eq_some, Option.some.injEq, Prod.mk.injEq, Bool.and_eq_true,
      beq_iff_eq, bne_iff_ne] at split
    obtain ⟨⟨⟨name, closing⟩, filled⟩, rfl, rfl⟩ := split
    obtain ⟨argument, rfl⟩ := List.getLast?_eq_some_iff.mp closing
    rw [List.dropLast_concat] at filled ⊢
    exact ⟨name, filled, by rw [← start, List.takeWhile_append_dropWhile]⟩
  case h_2 => contradiction

theorem splitCall_iff : splitCall text = some (tool, argument) ↔
    isToolName tool = true ∧ argument ≠ [] ∧ text = tool ++ '(' :: (argument ++ [')']) := by
  constructor
  · exact splitCall_sound
  · rintro ⟨name, filled, rfl⟩
    exact splitCall_complete name filled

theorem not_mem_of_isToolName (tool' : isToolName tool = true) (stop : Char)
    (outside : isToolRest stop = false) : stop ∉ tool := by
  intro member
  exact bne_iff_ne.mp (isToolName_ne tool' stop outside stop member) rfl

theorem not_mem_of_isSubcommandName (name' : isSubcommandName name = true) (stop : Char)
    (outside : isSubcommandName [stop] = false) : stop ∉ name := by
  intro member
  simp only [isSubcommandName, Bool.or_eq_true, Bool.and_eq_true, beq_iff_eq, List.all_eq_true] at name'
  rcases name' with rfl | ⟨_, characters⟩
  · obtain rfl := List.mem_singleton.mp member
    exact absurd outside (by decide)
  · have alone : isSubcommandName [stop] = true := by
      simp [isSubcommandName, characters stop member]
    exact absurd alone (Bool.not_eq_true _ ▸ outside)

theorem splitSubcommand_complete (tool' : isToolName tool = true)
    (name' : isSubcommandName name = true) :
    splitSubcommand (tool ++ ':' :: name) = some (tool, name) := by
  have inside := isToolName_ne tool' ':' (by decide)
  have stop : ∀ c ∈ (':' :: name).head?, (c != ':') = false := by
    rintro c ⟨⟩
    rfl
  rw [splitSubcommand, dropWhile_run inside stop, takeWhile_run inside stop]
  simp only [tool', name', Bool.and_self, if_true]

theorem splitSubcommand_sound (split : splitSubcommand text = some (tool, name)) :
    isToolName tool = true ∧ isSubcommandName name = true ∧ text = tool ++ ':' :: name := by
  unfold splitSubcommand at split
  split at split
  case h_1 name start =>
    simp only [Option.ite_none_right_eq_some, Option.some.injEq, Prod.mk.injEq,
      Bool.and_eq_true] at split
    obtain ⟨⟨tool', name'⟩, rfl, rfl⟩ := split
    exact ⟨tool', name', by rw [← start, List.takeWhile_append_dropWhile]⟩
  case h_2 => contradiction

theorem splitSubcommand_iff : splitSubcommand text = some (tool, name) ↔
    isToolName tool = true ∧ isSubcommandName name = true ∧ text = tool ++ ':' :: name := by
  constructor
  · exact splitSubcommand_sound
  · rintro ⟨tool', name', rfl⟩
    exact splitSubcommand_complete tool' name'

theorem splitCall_of_not_mem (absent : '(' ∉ text) : splitCall text = none := by
  cases split : splitCall text with
  | none => rfl
  | some parts =>
    obtain ⟨_, _, rfl⟩ := splitCall_sound split
    simp at absent

theorem splitSubcommand_of_not_mem (absent : ':' ∉ text) : splitSubcommand text = none := by
  cases split : splitSubcommand text with
  | none => rfl
  | some parts =>
    obtain ⟨_, _, rfl⟩ := splitSubcommand_sound split
    simp at absent

/-- The form of a text, whether it is deprecated or not. -/
def form? (text : List Char) : Option Form :=
  match splitCall text with
  | some (tool, argument) => some (.call (.ofList tool) (.ofList argument))
  | none => match splitSubcommand text with
    | some (tool, name) => some (.subcommand (.ofList tool) (.ofList name))
    | none => if isToolName text then some (.bare (.ofList text)) else none

variable {pattern : String} {form : Form}

theorem splitCall_of_spells {tool argument : String} (spells : Spells pattern (.call tool argument)) :
    splitCall pattern.toList = some (tool.toList, argument.toList) := by
  cases spells with
  | call identifier filled =>
    have text : (tool ++ "(" ++ argument ++ ")").toList =
        tool.toList ++ '(' :: (argument.toList ++ [')']) := by
      simp
    have filled' : argument.toList ≠ [] := by simpa using filled
    rw [text, splitCall_complete (isToolName_iff.mpr identifier) filled']

theorem form?_of_spells (spells : Spells pattern form) : form? pattern.toList = some form := by
  unfold form?
  cases form with
  | call tool argument =>
    rw [splitCall_of_spells spells]
    simp
  | subcommand tool name =>
    cases spells with
    | subcommand identifier suffix =>
      have tool' := isToolName_iff.mpr identifier
      have name' := isSubcommandName_iff.mpr suffix
      have text : (tool ++ ":" ++ name).toList = tool.toList ++ ':' :: name.toList := by
        simp
      have absent : '(' ∉ tool.toList ++ ':' :: name.toList := by
        simp [not_mem_of_isToolName tool' '(' (by decide),
          not_mem_of_isSubcommandName name' '(' (by decide)]
      rw [text, splitCall_of_not_mem absent, splitSubcommand_complete tool' name']
      simp
  | bare tool =>
    cases spells with
    | bare identifier =>
      have tool' := isToolName_iff.mpr identifier
      rw [splitCall_of_not_mem (not_mem_of_isToolName tool' '(' (by decide)),
        splitSubcommand_of_not_mem (not_mem_of_isToolName tool' ':' (by decide))]
      simp [tool']

theorem spells_of_form? (found : form? pattern.toList = some form) : Spells pattern form := by
  unfold form? at found
  split at found
  case h_1 tool argument split =>
    obtain rfl := Option.some.inj found
    obtain ⟨tool', filled, text⟩ := splitCall_sound split
    have same : pattern = .ofList tool ++ "(" ++ .ofList argument ++ ")" := by
      apply String.toList_inj.mp
      simp [text]
    rw [same]
    refine .call (isToolName_iff.mp ?_) ?_
    · simpa using tool'
    · simpa using filled
  case h_2 =>
    split at found
    case h_1 tool name split =>
      obtain rfl := Option.some.inj found
      obtain ⟨tool', name', text⟩ := splitSubcommand_sound split
      have same : pattern = .ofList tool ++ ":" ++ .ofList name := by
        apply String.toList_inj.mp
        simp [text]
      rw [same]
      refine .subcommand (isToolName_iff.mp ?_) (isSubcommandName_iff.mp ?_)
      · simpa using tool'
      · simpa using name'
    case h_2 =>
      simp only [Option.ite_none_right_eq_some, Option.some.injEq, String.ofList_toList] at found
      obtain ⟨tool', rfl⟩ := found
      exact .bare (isToolName_iff.mp tool')

def Form.isDeprecated : Form → Bool
  | call tool argument => Pattern.isDeprecated tool.toList argument.toList
  | _ => false

theorem isDeprecated_iff {tool argument : String} :
    isDeprecated tool.toList argument.toList = true ↔
      tool ≠ "MCP" ∧ ∃ start, argument = start ++ ":*" := by
  have exempt : tool.toList = exemptTool ↔ tool = "MCP" := by
    rw [← String.toList_inj]
    rfl
  simp only [isDeprecated, Bool.and_eq_true, bne_iff_ne, ne_eq, exempt, List.isSuffixOf_iff_suffix]
  refine and_congr_right fun _ => ⟨?_, ?_⟩
  · rintro ⟨start, text⟩
    refine ⟨.ofList start, String.toList_inj.mp ?_⟩
    rw [← text]
    simp [colonStar]
  · rintro ⟨start, rfl⟩
    exact ⟨start.toList, by simp [colonStar]⟩

theorem Form.isDeprecated_iff : form.isDeprecated = true ↔ form.Deprecated := by
  cases form with
  | call tool argument =>
    rw [Form.isDeprecated, Pattern.isDeprecated_iff]
    constructor
    · rintro ⟨other, start, rfl⟩
      exact .call other
    · rintro ⟨other⟩
      exact ⟨other, _, rfl⟩
  | subcommand | bare => exact iff_of_false Bool.false_ne_true nofun

end PermissionRules.Pattern
