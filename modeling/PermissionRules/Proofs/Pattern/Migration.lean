import PermissionRules.Pattern.Migration
import PermissionRules.Proofs.Pattern.Rendering

/-! What a migration makes of a pattern. The deprecated patterns are migrated and no others; one character of
the argument changes, which leaves a proper call of the same tool, of no other length and without the
deprecated ending. So a migration is accepted and never migrated again. -/
namespace PermissionRules.Pattern

/-- A deprecated call and the call that it is migrated to. -/
inductive Migrates : String → String → Prop where
  | call {tool start} : Identifier tool → tool ≠ "MCP" →
      Migrates (tool ++ "(" ++ (start ++ ":*") ++ ")") (tool ++ "(" ++ (start ++ " *") ++ ")")

variable {pattern migrated : String} {form : Form}

theorem migrates_of_spells (spells : Spells pattern form) (deprecated : form.Deprecated) :
    ∃ migrated, Migrates pattern migrated := by
  cases deprecated with
  | call other =>
    cases spells with
    | call identifier filled => exact ⟨_, .call identifier other⟩

theorem deprecated_of_migrate? (rewritten : (migrate? pattern).isSome = true) :
    OneLine pattern ∧ ∃ form, Spells pattern form ∧ form.Deprecated := by
  simp only [migrate?] at rewritten
  split at rewritten
  case h_1 tool argument plain split =>
    have old : isDeprecated tool argument = true := by
      cases old : isDeprecated tool argument with
      | true => rfl
      | false => simp [old] at rewritten
    have spells : Spells pattern (.call (.ofList tool) (.ofList argument)) :=
      spells_of_form? (by rw [form?, split])
    -- Blank texts are not looked for here; but what can be split is not blank.
    refine ⟨oneLine_iff.mpr ⟨spells.filled, plain⟩, _, spells, Form.isDeprecated_iff.mp ?_⟩
    simpa [Form.isDeprecated] using old
  case h_2 => contradiction

theorem migrate?_of_migrates (line : OneLine pattern) (migrates : Migrates pattern migrated) :
    migrate? pattern = some migrated := by
  cases migrates with
  | @call tool start identifier other =>
    have spells : Spells (tool ++ "(" ++ (start ++ ":*") ++ ")") (.call tool (start ++ ":*")) :=
      .call identifier (by simp)
    have old : isDeprecated tool.toList (start ++ ":*").toList = true :=
      isDeprecated_iff.mpr ⟨other, start, rfl⟩
    simp only [migrate?, (oneLine_iff.mp line).2, splitCall_of_spells spells, old, if_true,
      Option.some.injEq]
    apply String.toList_inj.mp
    simp [colonStar]

/-- The function and the relation determine each other on texts without a fault of their line. -/
theorem migrate?_eq_some_iff :
    migrate? pattern = some migrated ↔ OneLine pattern ∧ Migrates pattern migrated := by
  constructor
  · intro rewritten
    obtain ⟨line, form, spells, deprecated⟩ :=
      deprecated_of_migrate? (Option.isSome_iff_exists.mpr ⟨_, rewritten⟩)
    obtain ⟨other, migrates⟩ := migrates_of_spells spells deprecated
    have same := rewritten.symm.trans (migrate?_of_migrates line migrates)
    exact ⟨line, Option.some.inj same ▸ migrates⟩
  · rintro ⟨line, migrates⟩
    exact migrate?_of_migrates line migrates

/-- What is migrated are the deprecated patterns. -/
theorem migrate?_isSome_iff :
    (migrate? pattern).isSome = true ↔ fault? pattern = some .deprecatedColonStar := by
  rw [fault?_eq_some, parse_eq_deprecated]
  constructor
  · exact deprecated_of_migrate?
  · rintro ⟨line, form, spells, deprecated⟩
    obtain ⟨migrated, migrates⟩ := migrates_of_spells spells deprecated
    rw [migrate?_of_migrates line migrates]
    rfl

theorem migrate?_eq_none_iff :
    migrate? pattern = none ↔ parse pattern ≠ .error .deprecatedColonStar := by
  rw [← Option.not_isSome_iff_eq_none, migrate?_isSome_iff, fault?_eq_some]

theorem migrate?_eq_none {fault : Fault} (refused : fault? pattern = some fault)
    (current : fault ≠ .deprecatedColonStar) : migrate? pattern = none := by
  rw [migrate?_eq_none_iff, fault?_eq_some.mp refused]
  intro same
  exact current (Except.error.inj same)

theorem migrate?_of_parse (accepted : parse pattern = .ok form) : migrate? pattern = none := by
  rw [migrate?_eq_none_iff, accepted]
  exact nofun

/-- A text with any other fault is not migrated, even if it looks like a deprecated call. -/
theorem migrate?_of_faulty (faulty : Blank pattern ∨ Broken pattern ∨ 500 < pattern.length ∨
    ∀ form, ¬ Spells pattern form) : migrate? pattern = none := by
  rw [migrate?_eq_none_iff, ne_eq, parse_eq_deprecated]
  rintro ⟨line, form, spells, _⟩
  rcases faulty with blank | broken | long | shapeless
  · exact line.filled blank
  · exact line.unbroken broken
  · exact Nat.not_lt.mpr line.short long
  · exact shapeless form spells

/-! ### The call that a pattern is migrated to -/

namespace Migrates

theorem toList (migrates : Migrates pattern migrated) :
    ∃ before, pattern.toList = before ++ [':', '*', ')'] ∧
      migrated.toList = before ++ [' ', '*', ')'] := by
  cases migrates with
  | @call tool start => exact ⟨tool.toList ++ '(' :: start.toList, by simp, by simp⟩

/-- The third character from the end is replaced, and no other one. -/
theorem set (migrates : Migrates pattern migrated) :
    ∃ position, position + 3 = pattern.length ∧ pattern.toList[position]? = some ':' ∧
      migrated.toList = pattern.toList.set position ' ' := by
  obtain ⟨before, old, new⟩ := migrates.toList
  refine ⟨before.length, ?_, ?_, ?_⟩
  · rw [← String.length_toList, old, List.length_append]
    rfl
  · rw [old, List.getElem?_append_right (Nat.le_refl _), Nat.sub_self]
    rfl
  · rw [old, new, List.set_append_right _ _ (Nat.le_refl _), Nat.sub_self]
    rfl

theorem length (migrates : Migrates pattern migrated) : migrated.length = pattern.length := by
  obtain ⟨position, _, _, same⟩ := migrates.set
  rw [← String.length_toList, same, List.length_set, String.length_toList]

end Migrates

/-- A blank before the star is no deprecated ending. -/
theorem blankStar_ne (start other : String) : start ++ " *" ≠ other ++ ":*" := by
  intro same
  have ends : start.toList ++ [' ', '*'] = other.toList ++ [':', '*'] := by
    simpa using congrArg String.toList same
  exact absurd (List.append_inj_right' ends rfl) (by decide)

theorem proper_migrated {tool start : String} (identifier : Identifier tool) (unbroken : ¬ Broken start) :
    (Form.call tool (start ++ " *")).Proper := by
  refine .call identifier (by simp) ?_ fun _ other => blankStar_ne start other
  rw [broken_append, not_or]
  exact ⟨unbroken, by decide⟩

/-- A migration is accepted as a call of the tool that the pattern names, at any length that the pattern may
have. -/
theorem parse_of_migrate? (rewritten : migrate? pattern = some migrated) :
    ∃ tool start, Identifier tool ∧ tool ≠ "MCP" ∧
      pattern = tool ++ "(" ++ (start ++ ":*") ++ ")" ∧
      migrated = tool ++ "(" ++ (start ++ " *") ++ ")" ∧
      parse migrated = .ok (.call tool (start ++ " *")) := by
  obtain ⟨line, migrates⟩ := migrate?_eq_some_iff.mp rewritten
  have short : migrated.length ≤ 500 := migrates.length ▸ line.short
  cases migrates with
  | @call tool start identifier other =>
    have unbroken := line.unbroken
    simp only [broken_append, not_or] at unbroken
    exact ⟨tool, start, identifier, other, rfl, rfl, parse_eq_ok_iff_render.mpr
      ⟨rfl, proper_migrated identifier unbroken.1.2.1, short⟩⟩

theorem isValid_of_migrate? (rewritten : migrate? pattern = some migrated) :
    isValid migrated = true := by
  obtain ⟨_, _, _, _, _, _, accepted⟩ := parse_of_migrate? rewritten
  exact isValid_iff.mpr ⟨_, accepted⟩

/-- A migration changes the third character of a deprecated call from its end, from a colon to a blank, and
nothing else. The result is accepted as a call of the same tool, and it is not migrated again. -/
theorem migration_minimal (rewritten : migrate? pattern = some migrated) :
    ∃ tool start, Identifier tool ∧ tool ≠ "MCP" ∧
      pattern = tool ++ "(" ++ (start ++ ":*") ++ ")" ∧
      migrated = tool ++ "(" ++ (start ++ " *") ++ ")" ∧
      migrated.length = pattern.length ∧
      (∃ position, position + 3 = pattern.length ∧ pattern.toList[position]? = some ':' ∧
        migrated.toList = pattern.toList.set position ' ') ∧
      parse migrated = .ok (.call tool (start ++ " *")) ∧
      isValid migrated = true ∧
      migrate? migrated = none := by
  obtain ⟨tool, start, identifier, other, before, after, accepted⟩ := parse_of_migrate? rewritten
  have migrates := (migrate?_eq_some_iff.mp rewritten).2
  exact ⟨tool, start, identifier, other, before, after, migrates.length, migrates.set, accepted,
    isValid_of_migrate? rewritten, migrate?_of_parse accepted⟩

/-- The parenthesis and the first colon and star belong to the argument. -/
theorem migration_minimal_nested :
    migrate? "A(b)(:*:*)" = some "A(b)(:* *)" ∧
    (∃ start, "A(b)(:*:*)" = "A" ++ "(" ++ (start ++ ":*") ++ ")" ∧
      parse "A(b)(:* *)" = .ok (.call "A" (start ++ " *"))) ∧
    isValid "A(b)(:* *)" = true ∧ migrate? "A(b)(:* *)" = none := by
  have rewritten : migrate? "A(b)(:*:*)" = some "A(b)(:* *)" := by decide
  have read : parse "A(b)(:* *)" = .ok (.call "A" "b)(:* *") := rfl
  obtain ⟨tool, start, _, _, before, _, _, _, accepted, valid, final⟩ := migration_minimal rewritten
  obtain ⟨rfl, _⟩ := Form.call.inj (Except.ok.inj (accepted.symm.trans read))
  exact ⟨rewritten, ⟨start, before, accepted⟩, valid, final⟩

end PermissionRules.Pattern
