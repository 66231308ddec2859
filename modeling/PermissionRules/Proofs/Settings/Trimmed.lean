import PermissionRules.Proofs.Document.Edited
import PermissionRules.Proofs.Document.Fallback
import PermissionRules.Proofs.Document.Leftover
import PermissionRules.Proofs.Settings.Inline
import Mathlib.Data.List.DropRight

/-! Inline documents are trimmed. More is trimmed of a text than stands between tokens, and the end of a line
comment may be trimmed with what is behind it. Still a text that is read untrimmed has the same tokens once it
is trimmed, so that it is the same document. -/
namespace PermissionRules

namespace Document
open Text

variable {c : Char} {text : List Char} {spelled : List Token} {value : Value}

/-- Nothing is read behind a blank that is no layout. -/
theorem tokens_outside (outside : Outside c) (layout : isLayoutBlank c = false) (text : List Char) :
    tokens (c :: text) = none := by
  rw [tokens_eq, skipLayout_start layout (outside.ne (by decide)), Option.bind_some, tokensFrom,
    readToken_outside outside]
  rfl

theorem tokens_trimStart (cut : tokens text = some spelled) : tokens (trimStart text) = some spelled := by
  induction text with
  | nil => exact cut
  | cons c text ih =>
    rw [trimStart, List.dropWhile_cons]
    split
    case isTrue blank =>
      apply ih
      cases layout : isLayoutBlank c with
      | true =>
        have blanks : ∀ c' ∈ [c], isLayoutBlank c' = true := List.forall_mem_singleton.mpr layout
        rw [← tokens_blank blanks]
        exact cut
      | false =>
        rw [tokens_outside (outside_of_isBlank blank) layout] at cut
        contradiction
    case isFalse => exact cut

theorem tokens_trimEnd (cut : tokens text = some spelled) : tokens (trimEnd text) = some spelled := by
  induction text using List.reverseRecOn with
  | nil => exact cut
  | append_singleton text c ih =>
    have trimmed : trimEnd (text ++ [c]) = if isBlank c then trimEnd text else text ++ [c] :=
      List.rdropWhile_concat isBlank text c
    rw [trimmed]
    split
    case isTrue blank => exact ih (tokens_concat (outside_of_isBlank blank) cut)
    case isFalse => exact cut

theorem readRelaxed_trim (read : readRelaxed text = some value) : readRelaxed (trim text) = some value := by
  obtain ⟨spelled, cut, spells⟩ := Option.bind_eq_some_iff.mp read
  rw [readRelaxed, trim, tokens_trimEnd (tokens_trimStart cut)]
  exact spells

/-- What is no document when it is read relaxed is none at all. -/
theorem parse_eq_ok_iff {text : String} : parse text = .ok value ↔ readRelaxed text.toList = some value := by
  constructor
  · intro parsed
    unfold parse at parsed
    split at parsed
    case h_1 relaxed read => rw [read, Except.ok.inj parsed]
    case h_2 refused =>
      cases strict : Strict.read text.toList with
      | ok value =>
        obtain ⟨relaxed, read⟩ := Strict.readRelaxed_of_read strict
        rw [refused] at read
        contradiction
      | error fault =>
        rw [readStrict, strict] at parsed
        contradiction
  · intro read
    rw [parse, read]

end Document

namespace Settings
open Document Files

variable {text : String} {value : Value}

theorem parseDocument_eq_ok_iff : parseDocument text = .ok value ↔ parse text = .ok value := by
  unfold parseDocument
  cases parse text with
  | ok parsed =>
    show Except.ok parsed = .ok value ↔ _
    rw [Except.ok.injEq, Except.ok.injEq]
  | error error => exact iff_of_false nofun nofun

theorem parseDocument_trim (parsed : parseDocument text = .ok value) :
    parseDocument (.ofList (Text.trim text.toList)) = .ok value := by
  rw [parseDocument_eq_ok_iff, parse_eq_ok_iff] at parsed ⊢
  rw [String.toList_ofList]
  exact readRelaxed_trim parsed

theorem ofInput_of_brace (braced : (Text.trim text.toList).head? = some '{') :
    Target.ofInput text = .inline (.ofList (Text.trim text.toList)) := by
  rw [Target.ofInput, braced]
  rfl

/-- Trimming a document given inline changes nothing of it: what is read as it stands is read trimmed. The
converse fails, since not all that is trimmed may stand in front of a document. -/
theorem load_trimmed (look : Path → Sight) :
    (∀ text value, (Text.trim text.toList).head? = some '{' → parseDocument text = .ok value →
      Target.ofInput text = .inline (.ofList (Text.trim text.toList)) ∧
      (Target.ofInput text).load look = .ok value) ∧
    ∃ text error value, parseDocument text = .error error ∧
      (Text.trim text.toList).head? = some '{' ∧ (Target.ofInput text).load look = .ok value := by
  constructor
  · intro text value braced parsed
    have inline := ofInput_of_brace braced
    rw [inline]
    exact ⟨rfl, parseDocument_trim parsed⟩
  · have empty : (Value.object []).compact = "\x7b\x7d" := by decide
    have refused : readRelaxed "\u0085\x7b\x7d".toList = none := by
      have nextLine : Outside '\u0085' := outside_of_isBlank (by decide)
      have cut : tokens "\u0085\x7b\x7d".toList = none := tokens_outside nextLine (by decide) _
      rw [readRelaxed, cut]
      rfl
    cases parsed : parseDocument "\u0085\x7b\x7d" with
    | ok value =>
      rw [parseDocument_eq_ok_iff, parse_eq_ok_iff, refused] at parsed
      contradiction
    | error error =>
      refine ⟨_, error, .object [], parsed, by decide, ?_⟩
      have inline : Target.ofInput "\u0085\x7b\x7d" = .inline "\x7b\x7d" := by decide
      rw [inline, ← empty]
      exact load_compact (Value.wellFormed_object.mpr ⟨by decide, List.forall_mem_nil _⟩) look

/-- An object with blanks of several kinds around it, some of them in a comment at its end and one of them the
end of the comment's line. -/
def padded : String :=
  "\u3000\x7b\"a\":[1,null]\x7d//a\u0085\u2028\u00a0"

theorem edited_padded : Edited unedited padded.toList := by
  refine ⟨[.openBrace, .text "a", .colon, .openBracket, .number (.integer 1), .comma, .word "null" true,
    .closeBracket, .closeBrace], ?_, ?_⟩
  · exact .keep (.keep (.keep (.keep (.keep (.keep (.keep (.keep (.keep .none))))))))
  · have wide : Gap "\u3000".toList := .blank (by decide) .none
    have ending : Gap "//a\u0085\u2028\u00a0".toList :=
      @Gap.lineComment ['a', '\u0085'] '\u2028' ['\u00a0'] (Text.forall_mem_of_all (by decide)) (by decide)
        (.blank (by decide) .none)
    exact .token wide (.token .none (.token .none (.token .none (.token .none (.token .none
      (.token .none (.token .none (.token .none (.last ending)))))))))

theorem load_trimmed_padded : (Text.trim padded.toList).head? = some '{' ∧
    parseDocument padded = .ok unedited ∧
    Target.ofInput padded = .inline "\x7b\"a\":[1,null]\x7d//a" ∧
    ∀ look, (Target.ofInput padded).load look = .ok unedited := by
  have one : Value.IntegerInRange 1 := by decide
  have wellFormed : unedited.WellFormed :=
    Value.wellFormed_object.mpr ⟨by decide, List.forall_mem_singleton.mpr ⟨one, trivial, trivial⟩⟩
  have braced : (Text.trim padded.toList).head? = some '{' := by decide
  have parsed : parseDocument padded = .ok unedited :=
    parseDocument_eq_ok_iff.mpr (parse_edited wellFormed edited_padded)
  refine ⟨braced, parsed, by decide, fun look => ?_⟩
  exact ((load_trimmed look).1 padded unedited braced parsed).2

end Settings
end PermissionRules
