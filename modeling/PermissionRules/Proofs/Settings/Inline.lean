import PermissionRules.Proofs.Document.ReadBack

/-! Inline documents. The compact text of an object stands between braces, so that there is nothing to trim
of it, and it is an inline target that loads the object. -/
namespace PermissionRules

namespace Text
variable {first last : Char}

/-- A text that neither starts nor ends with a blank stays as it is. -/
theorem trim_of_ends (first' : isBlank first = false) (last' : isBlank last = false)
    (inside : List Char) : trim (first :: (inside ++ [last])) = first :: (inside ++ [last]) := by
  have start : trimStart (first :: (inside ++ [last])) = first :: (inside ++ [last]) :=
    List.dropWhile_cons_of_neg (Bool.not_eq_true _ ▸ first')
  have reversed : (first :: (inside ++ [last])).reverse = last :: (first :: inside).reverse := by
    rw [← List.cons_append, List.reverse_append]
    rfl
  rw [trim, start, trimEnd, reversed, List.dropWhile_cons_of_neg (Bool.not_eq_true _ ▸ last'),
    ← reversed, List.reverse_reverse]

end Text

namespace Document

theorem Value.compact_object (members : List (String × Value)) :
    ∃ inside, (object members).compact.toList = '{' :: (inside ++ ['}']) := by
  rw [compact, String.toList_ofList]
  cases members with
  | nil => exact ⟨[], rfl⟩
  | cons member members =>
    obtain ⟨key, value⟩ := member
    refine ⟨quoted key ++ ':' :: value.write .compact 1 (writeMembers .compact 1 members []), ?_⟩
    have others : writeMembers .compact 1 members [] ++ ['}'] = writeMembers .compact 1 members ['}'] :=
      writeMembers_append (fun member _ => member.2.write_append) 1 [] ['}']
    rw [List.append_assoc, List.cons_append, write_append, others, write, Style.compact]
    simp only [List.nil_append, List.append_assoc, List.cons_append]

end Document

namespace Settings
open Document Files

theorem ofInput_compact (members : List (String × Value)) :
    Target.ofInput (Value.object members).compact = .inline (Value.object members).compact := by
  obtain ⟨inside, text⟩ := Value.compact_object members
  have trimmed : Text.trim (Value.object members).compact.toList = (Value.object members).compact.toList := by
    rw [text]
    exact Text.trim_of_ends (by decide) (by decide) inside
  have start : ((Value.object members).compact.toList.head? == some '{') = true := by
    rw [text]
    rfl
  rw [Target.ofInput, trimmed, start, String.ofList_toList]
  rfl

theorem load_compact {value : Value} (wellFormed : value.WellFormed) (look : Path → Sight) :
    (Target.inline value.compact).load look = .ok value := by
  rw [Target.load, parseDocument, parse_compact wellFormed]
  rfl

end Settings
end PermissionRules
