import PermissionRules.Proofs.Document.Layout

/-! Characters that are in no token at its end. Blanks are such characters, and one of them may stand behind a
text or not: what is skipped and read of the text is the same. -/
namespace PermissionRules.Document
open Text

/-- A character that ends no token and begins none. -/
structure Outside (c : Char) : Prop where
  visible : ¬ ('!' ≤ c ∧ c ≤ '~')
  numeral : isNumeralRun c = false
  hexadecimal : isHexDigit c = false
  identifier : isIdentifierRest c = false

theorem outside_of_isBlank {c : Char} (blank : isBlank c = true) : Outside c := by
  have facts : ∀ c ∈ '\u0085' :: layoutBlanks, ¬ ('!' ≤ c ∧ c ≤ '~') ∧ isNumeralRun c = false ∧
      isHexDigit c = false ∧ isIdentifierRest c = false := forall_mem_of_all (by decide +kernel)
  have member : c ∈ '\u0085' :: layoutBlanks := by
    by_cases nextLine : c = '\u0085'
    · exact nextLine ▸ List.mem_cons_self
    · refine List.mem_cons_of_mem _ (mem_layoutBlanks ?_)
      simp [isLayoutBlank, blank, nextLine]
  obtain ⟨visible, numeral, hexadecimal, identifier⟩ := facts c member
  exact ⟨visible, numeral, hexadecimal, identifier⟩

variable {last c : Char} {text rest after : List Char}

namespace Outside

theorem ne (outside : Outside last) {mark : Char} (visible : '!' ≤ mark ∧ mark ≤ '~') : last ≠ mark := by
  rintro rfl
  exact outside.visible visible

theorem not_mem (outside : Outside last) {word : List Char} (visible : ∀ c ∈ word, '!' ≤ c ∧ c ≤ '~') :
    last ∉ word :=
  fun member => outside.visible (visible last member)

theorem digit (outside : Outside last) : last.isDigit = false := by
  have numeral := outside.numeral
  simp only [isNumeralRun, Bool.or_eq_false_iff] at numeral
  exact numeral.1.1.1.1.1

theorem start (outside : Outside last) : isIdentifierStart last = false := by
  have identifier := outside.identifier
  simp only [isIdentifierRest, Bool.or_eq_false_iff] at identifier
  exact identifier.1.1.1

/-- A visible character that does not come next does not come next with the other behind the text. -/
theorem ne_concat (outside : Outside last) {mark : Char} (visible : '!' ≤ mark ∧ mark ≤ '~')
    (other : ∀ rest, text = mark :: rest → False) : ∀ rest, text ++ [last] = mark :: rest → False := by
  intro rest same
  obtain ⟨kept, rfl, _⟩ := eq_cons_of_concat (outside.ne visible) same
  exact other kept rfl

end Outside

/-! ### Layout -/

theorem skipLayout_plain (outside : Outside last)
    (line : ∀ rest, c = '/' → after = '/' :: rest → False)
    (block : ∀ rest, c = '/' → after = '*' :: rest → False) :
    skipLayout .between (c :: after ++ [last]) =
      if isLayoutBlank c then skipLayout .between (after ++ [last]) else some (c :: after ++ [last]) := by
  refine skipLayout.eq_4 _ _ ?_ ?_
  · intro rest slash
    exact outside.ne_concat (by decide) (fun rest => line rest slash) rest
  · intro rest slash
    exact outside.ne_concat (by decide) (fun rest => block rest slash) rest

/-- Layout in front of a text ends where it ends without the character behind the text; only a text that is all
layout leaves nothing of it. -/
theorem skipLayout_concat (outside : Outside last) {mode : LayoutMode}
    (skipped : skipLayout mode (text ++ [last]) = some rest) :
    rest = [] ∧ skipLayout mode text = some [] ∨
      ∃ kept, rest = kept ++ [last] ∧ skipLayout mode text = some kept := by
  fun_induction skipLayout mode text with
  | case1 =>
    have slash : last ≠ '/' := outside.ne (by decide)
    rw [List.nil_append, skipLayout.eq_4 _ _ (fun _ equal => absurd equal slash)
      (fun _ equal => absurd equal slash)] at skipped
    split at skipped
    case isTrue =>
      obtain rfl := Option.some.inj skipped
      exact .inl ⟨rfl, rfl⟩
    case isFalse =>
      obtain rfl := Option.some.inj skipped
      exact .inr ⟨[], rfl, rfl⟩
  | case2 after ih => exact ih skipped
  | case3 after ih => exact ih skipped
  | case4 c after line block blank ih =>
    rw [skipLayout_plain outside line block, if_pos blank] at skipped
    exact ih skipped
  | case5 c after line block token =>
    rw [skipLayout_plain outside line block, if_neg token] at skipped
    obtain rfl := Option.some.inj skipped
    exact .inr ⟨c :: after, rfl, rfl⟩
  | case6 =>
    -- Whether the character ends the comment or is in it, the comment ends with the text.
    rw [List.nil_append, skipLayout] at skipped
    split at skipped
    case isTrue | isFalse =>
      obtain rfl := Option.some.inj skipped
      exact .inl ⟨rfl, rfl⟩
  | case7 c after ends ih =>
    rw [List.cons_append, skipLayout, if_pos ends] at skipped
    exact ih skipped
  | case8 c after goesOn ih =>
    rw [List.cons_append, skipLayout, if_neg goesOn] at skipped
    exact ih skipped
  | case9 =>
    have star : last ≠ '*' := outside.ne (by decide)
    rw [List.nil_append, skipLayout.eq_9 _ _ (fun _ equal => absurd equal star)] at skipped
    contradiction
  | case10 after ih => exact ih skipped
  | case11 c after goesOn ih =>
    have goesOn' : ∀ rest, c = '*' → after ++ [last] = '/' :: rest → False :=
      fun rest star => outside.ne_concat (by decide) (fun rest => goesOn rest star) rest
    rw [List.cons_append, skipLayout.eq_9 _ _ goesOn'] at skipped
    exact ih skipped

end PermissionRules.Document
