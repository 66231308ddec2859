import PermissionRules.Proofs.Pattern.Answer

/-! Forms and their texts. What is accepted is the text of the form that it is accepted as, and a proper
form is read back from its text: whatever its argument holds, the tool ends at the first parenthesis or
colon. So no two proper forms have one text. -/
namespace PermissionRules.Pattern

/-- The forms whose texts are accepted, unless they are too long. -/
inductive Form.Proper : Form → Prop where
  | call {tool argument} : Identifier tool → argument ≠ "" → ¬ Broken argument →
      (tool ≠ "MCP" → ∀ start, argument ≠ start ++ ":*") → Proper (.call tool argument)
  | subcommand {tool name} : Identifier tool → SubcommandName name → Proper (.subcommand tool name)
  | bare {tool} : Identifier tool → Proper (.bare tool)

variable {tool name pattern : String} {form other : Form}

theorem broken_append {text rest : String} : Broken (text ++ rest) ↔ Broken text ∨ Broken rest := by
  simp only [Broken, String.toList_append, List.mem_append]
  exact or_or_or_comm

theorem Identifier.unbroken (identifier : Identifier tool) : ¬ Broken tool := by
  have tool' := isToolName_iff.mpr identifier
  rintro (member | member)
  · exact not_mem_of_isToolName tool' '\n' (by decide) member
  · exact not_mem_of_isToolName tool' '\r' (by decide) member

theorem SubcommandName.unbroken (suffix : SubcommandName name) : ¬ Broken name := by
  have name' := isSubcommandName_iff.mpr suffix
  rintro (member | member)
  · exact not_mem_of_isSubcommandName name' '\n' (by decide) member
  · exact not_mem_of_isSubcommandName name' '\r' (by decide) member

/-- A text that starts with a tool has a character that is not blank. -/
theorem Identifier.filled (identifier : Identifier tool) (rest : String) : ¬ Blank (tool ++ rest) := by
  obtain ⟨first, others, text, start, _⟩ := identifier
  intro blank
  have white : first.toNat ∈ whiteSpace := blank first (by simp [text])
  simp only [IsLetter, Char.le_def, UInt32.le_iff_toNat_le, ← Char.toNat_inj, Char.toNat_val,
    Char.reduceToNat] at start
  simp only [whiteSpace, List.mem_cons, List.not_mem_nil, or_false] at white
  omega

theorem spells_render (proper : form.Proper) : Spells form.render form := by
  cases proper with
  | call identifier filled => exact .call identifier filled
  | subcommand identifier suffix => exact .subcommand identifier suffix
  | bare identifier => exact .bare identifier

theorem render_of_spells (spells : Spells pattern form) : form.render = pattern := by
  cases spells with
  | call | subcommand | bare => rfl

theorem render_eq_append (form : Form) : ∃ rest, form.render = form.tool ++ rest := by
  cases form with
  | call tool argument =>
    refine ⟨"(" ++ (argument ++ ")"), ?_⟩
    simp only [Form.render, Form.tool, String.append_assoc]
  | subcommand tool name =>
    refine ⟨":" ++ name, ?_⟩
    simp only [Form.render, Form.tool, String.append_assoc]
  | bare tool => exact ⟨"", String.append_empty.symm⟩

theorem Spells.identifier (spells : Spells pattern form) : Identifier form.tool := by
  cases spells with
  | call identifier | subcommand identifier | bare identifier => exact identifier

theorem Spells.filled (spells : Spells pattern form) : ¬ Blank pattern := by
  obtain ⟨rest, text⟩ := render_eq_append form
  rw [← render_of_spells spells, text]
  exact spells.identifier.filled rest

namespace Form.Proper

theorem unbroken (proper : form.Proper) : ¬ Broken form.render := by
  cases proper with
  | call identifier filled unbroken =>
    simp only [render, broken_append, not_or]
    exact ⟨⟨⟨identifier.unbroken, by decide⟩, unbroken⟩, by decide⟩
  | subcommand identifier suffix =>
    simp only [render, broken_append, not_or]
    exact ⟨⟨identifier.unbroken, by decide⟩, suffix.unbroken⟩
  | bare identifier => exact identifier.unbroken

theorem current (proper : form.Proper) : ¬ form.Deprecated := by
  intro deprecated
  cases proper with
  | call identifier filled unbroken current =>
    obtain ⟨other⟩ := deprecated
    exact current other _ rfl
  | subcommand | bare => contradiction

/-- Proper forms are told apart by their texts, of whatever length. -/
theorem eq_of_render (proper : form.Proper) (proper' : other.Proper)
    (same : form.render = other.render) : form = other := by
  have read := form?_of_spells (spells_render proper)
  rw [same, form?_of_spells (spells_render proper')] at read
  exact (Option.some.inj read).symm

end Form.Proper

theorem proper_of_spells (line : OneLine pattern) (spells : Spells pattern form)
    (current : ¬ form.Deprecated) : form.Proper := by
  cases spells with
  | call identifier filled =>
    have unbroken := line.unbroken
    simp only [broken_append, not_or] at unbroken
    refine .call identifier filled unbroken.1.2 fun other start ends => current ?_
    rw [ends]
    exact .call other
  | subcommand identifier suffix => exact .subcommand identifier suffix
  | bare identifier => exact .bare identifier

/-- What is accepted as a form is the text of the form. -/
theorem parse_eq_ok_iff_render : parse pattern = .ok form ↔
    form.render = pattern ∧ form.Proper ∧ pattern.length ≤ 500 := by
  rw [parse_eq_ok]
  constructor
  · rintro ⟨line, spells, current⟩
    exact ⟨render_of_spells spells, proper_of_spells line spells current, line.short⟩
  · rintro ⟨rfl, proper, short⟩
    have spells := spells_render proper
    exact ⟨⟨spells.filled, proper.unbroken, short⟩, spells, proper.current⟩

theorem argument?_isSome_iff :
    form.argument?.isSome = true ↔ ∃ tool argument, form = .call tool argument := by
  cases form with
  | call tool argument => exact iff_of_true rfl ⟨tool, argument, rfl⟩
  | subcommand | bare => exact iff_of_false Bool.false_ne_true nofun

/-- Reading and rendering are inverse. What is accepted is the text of its form, which is proper; a proper
form whose text is not too long is read back from it; and no two proper forms have one text. -/
theorem parse_inverts_render :
    (∀ pattern form, parse pattern = .ok form →
      form.render = pattern ∧ form.Proper ∧ Identifier form.tool ∧
      (form.argument?.isSome = true ↔ ∃ tool argument, form = .call tool argument)) ∧
    (∀ form : Form, form.Proper → form.render.length ≤ 500 → parse form.render = .ok form) ∧
    ∀ form other : Form, form.Proper → other.Proper → form.render = other.render → form = other := by
  refine ⟨?_, ?_, ?_⟩
  · intro pattern form accepted
    obtain ⟨text, proper, _⟩ := parse_eq_ok_iff_render.mp accepted
    exact ⟨text, proper, (spells_render proper).identifier, argument?_isSome_iff⟩
  · intro form proper short
    exact parse_eq_ok_iff_render.mpr ⟨rfl, proper, short⟩
  · intro form other proper proper' same
    exact proper.eq_of_render proper' same

/-- An argument may look like the text of another form. -/
theorem parse_inverts_render_nested :
    parse "A(b):c(d)" = .ok (.call "A" "b):c(d") ∧ (Form.call "A" "b):c(d").render = "A(b):c(d)" ∧
    (Form.call "A" "b):c(d").Proper ∧
    ∀ other : Form, other.Proper → other.render = "A(b):c(d)" → other = .call "A" "b):c(d" := by
  have accepted : parse "A(b):c(d)" = .ok (.call "A" "b):c(d") := rfl
  obtain ⟨inverse, back, apart⟩ := parse_inverts_render
  obtain ⟨text, proper, _⟩ := inverse _ _ accepted
  refine ⟨text ▸ back _ proper (by decide), text, proper, ?_⟩
  intro other proper' same
  exact apart other _ proper' proper (same.trans text.symm)

end PermissionRules.Pattern
