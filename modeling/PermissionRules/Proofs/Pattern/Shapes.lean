import PermissionRules.Proofs.Pattern.Answer
import Mathlib.Data.List.Basic

/-! The shapes of patterns exclude each other. Each of them begins with a tool, and what stands next to the tool is
another mark in each shape, whatever follows the mark. So a text is read in one shape at most and in one way only,
and the order in which the shapes are tried does not matter. -/
namespace PermissionRules.Pattern
open Text

inductive Shape where
  | call
  | subcommand
  | bare
  deriving DecidableEq, Repr

namespace Shape

/-- Whether a text is read in a shape. -/
def fits : Shape → List Char → Bool
  | call, text => (splitCall text).isSome
  | subcommand, text => (splitSubcommand text).isSome
  | bare, text => isToolName text

/-- What stands behind the tool. -/
def mark? : Shape → Option Char
  | call => some '('
  | subcommand => some ':'
  | bare => none

/-- The answer to a text that is read in a shape. -/
def answer? : Shape → List Char → Option (Except Fault Form)
  | call, text => (splitCall text).map fun (tool, argument) =>
    if isDeprecated tool argument then .error .deprecatedColonStar
    else .ok (.call (.ofList tool) (.ofList argument))
  | subcommand, text => (splitSubcommand text).map fun (tool, name) =>
    .ok (.subcommand (.ofList tool) (.ofList name))
  | bare, text => if isToolName text then some (.ok (.bare (.ofList text))) else none

variable {shape one other : Shape} {text : List Char}

theorem mark?_inj (same : one.mark? = other.mark?) : one = other := by
  cases one <;> cases other <;> simp_all [mark?]

theorem isSome_answer? (shape : Shape) (text : List Char) : (shape.answer? text).isSome = shape.fits text := by
  cases shape with
  | call | subcommand => rw [answer?, Option.isSome_map, fits]
  | bare =>
    rw [answer?, fits]
    split
    case isTrue name => rw [name, Option.isSome_some]
    case isFalse other => rw [Option.isSome_none, eq_false_of_ne_true other]

/-- A text that is read in a shape is a tool and what begins with the mark of the shape. -/
theorem tool_of_fits (fits : shape.fits text = true) :
    ∃ tool rest, isToolName tool = true ∧ rest.head? = shape.mark? ∧ text = tool ++ rest := by
  cases shape with
  | call =>
    obtain ⟨⟨tool, argument⟩, split⟩ := Option.isSome_iff_exists.mp fits
    obtain ⟨name, _, text⟩ := splitCall_sound split
    exact ⟨tool, _, name, rfl, text⟩
  | subcommand =>
    obtain ⟨⟨tool, name⟩, split⟩ := Option.isSome_iff_exists.mp fits
    obtain ⟨name, _, text⟩ := splitSubcommand_sound split
    exact ⟨tool, _, name, rfl, text⟩
  | bare => exact ⟨text, [], fits, rfl, (List.append_nil text).symm⟩

/-- The mark is the first character of the text that cannot stand in a tool. -/
theorem mark?_of_fits (fits : shape.fits text = true) :
    (text.dropWhile isToolRest).head? = shape.mark? := by
  obtain ⟨tool, rest, name, head, rfl⟩ := tool_of_fits fits
  have stop : ∀ c ∈ rest.head?, isToolRest c = false := by
    rw [head]
    cases shape with
    | call | subcommand =>
      rintro c ⟨⟩
      decide
    | bare => exact nofun
  rw [dropWhile_run (isToolRest_of_isToolName name) stop, head]

theorem eq_of_fits (fits : one.fits text = true) (fits' : other.fits text = true) : one = other :=
  mark?_inj ((mark?_of_fits fits).symm.trans (mark?_of_fits fits'))

/-- The first answer is the same in every order of all shapes, since there is one at most. -/
theorem findSome?_answer? (text : List Char) {order order' : List Shape} (all : ∀ shape, shape ∈ order)
    (all' : ∀ shape, shape ∈ order') :
    order.findSome? (·.answer? text) = order'.findSome? (·.answer? text) := by
  cases found : order.findSome? (·.answer? text) with
  | none =>
    have unread := List.findSome?_eq_none_iff.mp found
    exact (List.findSome?_eq_none_iff.mpr fun shape _ => unread shape (all shape)).symm
  | some answer =>
    obtain ⟨one, _, read⟩ := List.exists_of_findSome?_eq_some found
    have fits : one.fits text = true := by rw [← isSome_answer?, read, Option.isSome_some]
    cases found' : order'.findSome? (·.answer? text) with
    | none =>
      have unread := List.findSome?_eq_none_iff.mp found' one (all' one)
      exact absurd (unread.symm.trans read) nofun
    | some answer' =>
      obtain ⟨other, _, read'⟩ := List.exists_of_findSome?_eq_some found'
      have fits' : other.fits text = true := by rw [← isSome_answer?, read', Option.isSome_some]
      obtain rfl := eq_of_fits fits fits'
      exact read.symm.trans read'

end Shape

/-- The answer to a pattern with the shapes tried in some order. -/
def parseIn (order : List Shape) (pattern : String) : Except Fault Form :=
  let text := pattern.toList
  if text.all isBlank then .error .empty
  else match lineFault? text with
    | some fault => .error fault
    | none => (order.findSome? (·.answer? text)).getD (.error (.invalidFormat pattern))

variable {pattern tool argument name : String}

theorem parse_eq_parseIn (pattern : String) : parse pattern = parseIn [.call, .subcommand, .bare] pattern := by
  cases line : lineFault? pattern.toList with
  | some fault => simp only [parse, parseIn, line]
  | none =>
    simp only [parse, parseIn, line, List.findSome?_cons, List.findSome?_nil, Shape.answer?]
    cases splitCall pattern.toList with
    | some parts => rfl
    | none =>
      cases splitSubcommand pattern.toList with
      | some parts => rfl
      | none =>
        cases isToolName pattern.toList with
        | true => simp only [Option.map_none, if_true, String.ofList_toList, Option.getD_some]
        | false => rfl

theorem splitCall_iff_spells : splitCall pattern.toList = some (tool.toList, argument.toList) ↔
    Spells pattern (.call tool argument) := by
  rw [splitCall_iff, isToolName_iff]
  constructor
  · rintro ⟨identifier, filled, text⟩
    have same : pattern = tool ++ "(" ++ argument ++ ")" := by
      apply String.toList_inj.mp
      simp [text]
    rw [same]
    exact .call identifier (by simpa using filled)
  · intro spells
    cases spells with
    | call identifier filled => exact ⟨identifier, by simpa using filled, by simp⟩

theorem splitSubcommand_iff_spells : splitSubcommand pattern.toList = some (tool.toList, name.toList) ↔
    Spells pattern (.subcommand tool name) := by
  rw [splitSubcommand_iff, isToolName_iff, isSubcommandName_iff]
  constructor
  · rintro ⟨identifier, suffix, text⟩
    have same : pattern = tool ++ ":" ++ name := by
      apply String.toList_inj.mp
      simp [text]
    exact same ▸ .subcommand identifier suffix
  · intro spells
    cases spells with
    | subcommand identifier suffix => exact ⟨identifier, suffix, by simp⟩

/-- The only way to write a pattern as a tool, a mark and what belongs to the mark; the tool ends at the first
mark of the pattern. -/
structure OnlySplit (form : String → String → Form) (mark : Char) (pattern tool rest : String) : Prop where
  spells : Spells pattern (form tool rest)
  only : ∀ tool' rest', Spells pattern (form tool' rest') → tool' = tool ∧ rest' = rest
  first : pattern.toList.idxOf mark = tool.length

/-- A split that succeeds on the patterns that are written in a form gives the only way to write them so, if their
mark cannot stand in a tool. -/
theorem onlySplit_iff {split : List Char → Option (List Char × List Char)} {form : String → String → Form}
    {mark : Char} (reads : ∀ {tool rest}, split pattern.toList = some (tool.toList, rest.toList) ↔
      Spells pattern (form tool rest))
    (writes : ∀ {tool rest}, Spells pattern (form tool rest) →
      Identifier tool ∧ ∃ ending, pattern.toList = tool.toList ++ mark :: ending)
    (outside : isToolRest mark = false) (tool rest : String) :
    split pattern.toList = some (tool.toList, rest.toList) ↔ OnlySplit form mark pattern tool rest := by
  constructor
  · intro found
    have spells := reads.mp found
    obtain ⟨identifier, ending, text⟩ := writes spells
    refine ⟨spells, ?_, ?_⟩
    · intro tool' rest' spells'
      have same := found.symm.trans (reads.mpr spells')
      obtain ⟨tools, rests⟩ := Prod.mk.inj (Option.some.inj same)
      exact ⟨(String.toList_inj.mp tools).symm, (String.toList_inj.mp rests).symm⟩
    · have absent := not_mem_of_isToolName (isToolName_iff.mpr identifier) mark outside
      rw [text, List.idxOf_append_of_notMem absent, List.idxOf_cons_self, Nat.add_zero, String.length_toList]
  · exact fun only => reads.mpr only.spells

theorem writes_call (spells : Spells pattern (.call tool argument)) :
    Identifier tool ∧ ∃ ending, pattern.toList = tool.toList ++ '(' :: ending := by
  cases spells with
  | call identifier filled => exact ⟨identifier, argument.toList ++ [')'], by simp⟩

theorem writes_subcommand (spells : Spells pattern (.subcommand tool name)) :
    Identifier tool ∧ ∃ ending, pattern.toList = tool.toList ++ ':' :: ending := by
  cases spells with
  | subcommand identifier suffix => exact ⟨identifier, name.toList, by simp⟩

/-- At most one shape is read from a text, of whatever length and with whatever characters. What a call or a
subcommand is split into is the only way to write the text in that shape, and the answer to a pattern does not
depend on the order in which the shapes are tried. -/
theorem shapes_exclusive (pattern : String) :
    (∀ one other : Shape, one.fits pattern.toList = true → other.fits pattern.toList = true → one = other) ∧
    (∀ tool argument : String, splitCall pattern.toList = some (tool.toList, argument.toList) ↔
      OnlySplit .call '(' pattern tool argument) ∧
    (∀ tool name : String, splitSubcommand pattern.toList = some (tool.toList, name.toList) ↔
      OnlySplit .subcommand ':' pattern tool name) ∧
    ∀ order : List Shape, (∀ shape, shape ∈ order) → parseIn order pattern = parse pattern := by
  refine ⟨fun one other => Shape.eq_of_fits, ?_, ?_, ?_⟩
  · exact onlySplit_iff splitCall_iff_spells writes_call (by decide)
  · exact onlySplit_iff splitSubcommand_iff_spells writes_subcommand (by decide)
  · intro order all
    have all' : ∀ shape : Shape, shape ∈ [Shape.call, .subcommand, .bare] := by
      intro shape
      cases shape <;> decide
    rw [parse_eq_parseIn, parseIn, parseIn, Shape.findSome?_answer? pattern.toList all all']

/-- A call whose argument holds a line break, the end of another call and a subcommand. -/
theorem shapes_exclusive_nested :
    Shape.call.fits "A(\n):b(c)".toList = true ∧
    (∀ shape : Shape, shape.fits "A(\n):b(c)".toList = true → shape = .call) ∧
    OnlySplit .call '(' "A(\n):b(c)" "A" "\n):b(c" ∧ OnlySplit .subcommand ':' "A:b" "A" "b" ∧
    parseIn [.bare, .subcommand, .call] "A(:b)" = parse "A(:b)" := by
  have fits : Shape.call.fits "A(\n):b(c)".toList = true := by decide
  obtain ⟨apart, call, _, _⟩ := shapes_exclusive "A(\n):b(c)"
  obtain ⟨_, _, subcommand, _⟩ := shapes_exclusive "A:b"
  obtain ⟨_, _, _, ordered⟩ := shapes_exclusive "A(:b)"
  refine ⟨fits, fun shape fits' => apart shape .call fits' fits, ?_, ?_, ?_⟩
  · exact (call "A" "\n):b(c").mp (by decide)
  · exact (subcommand "A" "b").mp (by decide)
  · exact ordered _ fun shape => by cases shape <;> decide

end PermissionRules.Pattern
