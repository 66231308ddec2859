import PermissionRules.Proofs.Document.Gaps
import PermissionRules.Proofs.Document.TokenTexts
import PermissionRules.Rules.Repair

/-! Documents edited by hand. Gaps between the tokens of a value, and commas behind the last elements of its
containers, do not change the value that is read. Both are told apart: the gaps are gone once the text is
cut into tokens, and the machine that reads them is where it would be without the comma. -/
namespace PermissionRules.Document
open Reading

/-- Some last elements of containers get a comma behind them. -/
inductive Trailed : List Token → List Token → Prop where
  | none : Trailed [] []
  | keep {token tokens tokens'} : Trailed tokens tokens' → Trailed (token :: tokens) (token :: tokens')
  | comma {token closing tokens tokens'} : token ∉ [.openBracket, .openBrace, .comma] →
      closing ∈ [.closeBracket, .closeBrace] → Trailed (closing :: tokens) tokens' →
      Trailed (token :: closing :: tokens) (token :: .comma :: tokens')

/-- A text of tokens in order, with gaps before, between and after them. -/
inductive Arranged : List Token → List Char → Prop where
  | last {gap} : Gap gap → Arranged [] gap
  | lastComment {gap body} : Gap gap → (∀ c ∈ body, c ∉ lineEnds) →
      Arranged [] (gap ++ '/' :: '/' :: body)
  | token {gap token tokens text} : Gap gap → Arranged tokens text →
      Arranged (token :: tokens) (gap ++ token.write ++ text)

/-- The text of a value with gaps between its tokens, and with commas behind last elements. -/
def Edited (value : Value) (text : List Char) : Prop :=
  ∃ tokens, Trailed value.tokens tokens ∧ Arranged tokens text

namespace Reading
variable {reading next after final : Reading} {token closing : Token} {stack : List Frame}

theorem foldlM_cons_eq_some {tokens : List Token} :
    (token :: tokens).foldlM step? reading = some final ↔
      ∃ next, reading.step? token = some next ∧ tokens.foldlM step? next = some final := by
  rw [List.foldlM_cons]
  exact Option.bind_eq_some_iff

/-- A value is complete, or the colon behind a key is due. -/
def Settled : Reading → Prop
  | complete _ _ | awaitColon _ _ _ => True
  | _ => False

theorem settled_of_begin? (other : token ∉ [.openBracket, .openBrace, .comma, .colon])
    (begun : begin? stack token = some next) : next.Settled := by
  cases token with
  | openBracket | openBrace => simp at other
  | text | number => exact Option.some.inj begun ▸ trivial
  | word name plain =>
    cases plain with
    | true =>
      obtain ⟨value, _, rfl⟩ := Option.map_eq_some_iff.mp begun
      trivial
    | false => contradiction
  | closeBracket | closeBrace | colon | comma => contradiction

/-- Only opening brackets, commas and colons lead to a place where something else may begin. -/
theorem settled_of_step? (other : token ∉ [.openBracket, .openBrace, .comma, .colon])
    (stepped : reading.step? token = some next) : next.Settled := by
  unfold step? at stepped
  split at stepped
  case h_1 => exact settled_of_begin? other stepped
  case h_3 => exact settled_of_begin? other stepped
  case h_7 | h_8 | h_10 => simp at other
  case h_12 => contradiction
  all_goals exact Option.some.inj stepped ▸ trivial

/-- The tokens that may stand behind a number or a word. -/
def behind : List Token :=
  [.comma, .colon, .closeBracket, .closeBrace]

theorem mem_behind (settled : reading.Settled) (stepped : reading.step? token = some next) :
    token ∈ behind := by
  cases token with
  | comma | colon | closeBracket | closeBrace => decide
  | _ =>
    cases reading with
    | complete value stack => rcases stack with - | ⟨_ | _, stack⟩ <;> contradiction
    | _ => contradiction

theorem settled_of_runsOn (runsOn : token.RunsOn) (stepped : reading.step? token = some next) :
    next.Settled := by
  refine settled_of_step? ?_ stepped
  cases token with
  | word name plain => simp
  | number value => simp
  | _ => contradiction

/-- Where a container may be closed with an element behind it, this element is complete. -/
theorem settled_of_closed (other : token ∉ [.openBracket, .openBrace, .comma])
    (stepped : reading.step? token = some next) (closing' : closing ∈ [.closeBracket, .closeBrace])
    (closed : next.step? closing = some after) : next.Settled := by
  by_cases colon : token = .colon
  · -- Behind a colon a value is due, and no bracket closes there.
    simp only [List.mem_cons, List.not_mem_nil, or_false] at closing'
    subst colon
    cases reading with
    | awaitColon members key stack =>
      obtain rfl := Option.some.inj stepped
      rcases closing' with rfl | rfl <;> contradiction
    | complete value stack => rcases stack with - | ⟨_ | _, stack⟩ <;> contradiction
    | _ => contradiction
  · refine settled_of_step? ?_ stepped
    simp only [List.mem_cons, List.not_mem_nil, or_false, not_or] at other ⊢
    exact ⟨other.1, other.2.1, other.2.2, colon⟩

/-- A bracket closes the same container with a comma before it. -/
theorem step?_comma (settled : reading.Settled) (closing' : closing ∈ [.closeBracket, .closeBrace])
    (closed : reading.step? closing = some after) :
    ∃ middle, reading.step? .comma = some middle ∧ middle.step? closing = some after := by
  simp only [List.mem_cons, List.not_mem_nil, or_false] at closing'
  cases reading with
  | complete value stack =>
    rcases stack with - | ⟨items | ⟨members, key⟩, stack⟩
    · rcases closing' with rfl | rfl <;> contradiction
    · rcases closing' with rfl | rfl
      · exact ⟨_, rfl, closed⟩
      · contradiction
    · rcases closing' with rfl | rfl
      · contradiction
      · exact ⟨_, rfl, closed⟩
  | awaitColon members key stack => rcases closing' with rfl | rfl <;> contradiction
  | _ => contradiction

/-- Commas behind last elements change nothing. -/
theorem foldlM_trailed {tokens tokens' : List Token} (trailed : Trailed tokens tokens')
    (accepted : tokens.foldlM step? reading = some final) :
    tokens'.foldlM step? reading = some final := by
  induction trailed generalizing reading with
  | none => exact accepted
  | keep _ ih =>
    obtain ⟨next, stepped, accepted⟩ := foldlM_cons_eq_some.mp accepted
    rw [foldlM_step stepped]
    exact ih accepted
  | @comma token closing tokens tokens' other closing' _ ih =>
    obtain ⟨next, stepped, accepted⟩ := foldlM_cons_eq_some.mp accepted
    obtain ⟨after, closed, accepted⟩ := foldlM_cons_eq_some.mp accepted
    obtain ⟨middle, comma, closed⟩ :=
      step?_comma (settled_of_closed other stepped closing' closed) closing' closed
    rw [foldlM_step stepped, foldlM_step comma]
    apply ih
    rw [foldlM_step closed]
    exact accepted

end Reading

variable {tokens : List Token} {text : List Char}

/-- A text that starts with a gap, with its end, or with a token that may stand behind a number or a word,
ends them. -/
theorem closes_arranged (arranged : Arranged tokens text) (next : ∀ token ∈ tokens.head?, token ∈ behind) :
    Closes text := by
  cases arranged with
  | last isGap =>
    rw [← List.append_nil text]
    exact closes_gap isGap closes_nil
  | lastComment isGap => exact closes_gap isGap (closes_cons (by decide) _)
  | @token gap token tokens text isGap _ =>
    rw [List.append_assoc]
    refine closes_gap isGap ?_
    have member := next token rfl
    simp only [behind, List.mem_cons, List.not_mem_nil, or_false] at member
    rcases member with rfl | rfl | rfl | rfl <;> exact closes_cons (by decide) _

/-- The tokens of an arranged text, provided that they are read one after the other. -/
theorem tokens_arranged {reading final : Reading} (arranged : Arranged tokens text)
    (readable : ∀ token ∈ tokens, token.Readable)
    (accepted : tokens.foldlM step? reading = some final) :
    Document.tokens text = some tokens := by
  induction arranged generalizing reading with
  | @last gap isGap =>
    rw [← List.append_nil gap, tokens_gap isGap, tokens_nil]
  | lastComment isGap inside => rw [tokens_gap isGap, tokens_lastComment inside]
  | @token gap token tokens text isGap arranged ih =>
    obtain ⟨first, others⟩ := List.forall_mem_cons.mp readable
    obtain ⟨next, stepped, accepted⟩ := foldlM_cons_eq_some.mp accepted
    have ends : token.RunsOn → Closes text := by
      intro runsOn
      refine closes_arranged arranged fun following head => ?_
      cases tokens with
      | nil => contradiction
      | cons next tokens =>
        obtain rfl := Option.some.inj head
        obtain ⟨_, stepped', _⟩ := foldlM_cons_eq_some.mp accepted
        exact mem_behind (settled_of_runsOn runsOn stepped) stepped'
    rw [List.append_assoc, tokens_gap isGap, tokens_token (first text ends), ih others accepted]
    rfl

/-- The tokens that commas are added to stay readable. -/
theorem readable_trailed {tokens tokens' : List Token} (trailed : Trailed tokens tokens')
    (readable : ∀ token ∈ tokens, token.Readable) : ∀ token ∈ tokens', token.Readable := by
  induction trailed with
  | none => exact readable
  | keep _ ih =>
    obtain ⟨first, others⟩ := List.forall_mem_cons.mp readable
    exact List.forall_mem_cons.mpr ⟨first, ih others⟩
  | comma _ _ _ ih =>
    obtain ⟨first, others⟩ := List.forall_mem_cons.mp readable
    exact List.forall_mem_cons.mpr
      ⟨first, List.forall_mem_cons.mpr ⟨fun _ _ => rfl, ih others⟩⟩

theorem parse_edited {value : Value} (wellFormed : value.WellFormed) {text : String}
    (edited : Edited value text.toList) : parse text = .ok value := by
  obtain ⟨tokens, trailed, arranged⟩ := edited
  have accepted : value.tokens.foldlM step? start = some (.complete value []) :=
    readBack wellFormed _ _ _ (awaits_value [])
  have accepted' := foldlM_trailed trailed accepted
  have readable := readable_trailed trailed (Value.tokensReadable wellFormed [] nofun)
  have read : readRelaxed text.toList = some value := by
    rw [readRelaxed, tokens_arranged arranged readable accepted', Option.bind_some, ofTokens?, accepted']
    rfl
  rw [parse, read]

end PermissionRules.Document

namespace PermissionRules.Settings
open Document Rules

/-- Editing the layout of a document, and adding commas behind last elements, changes neither the document
nor what is found and repaired in it. -/
theorem parseDocument_edited {value : Value} (wellFormed : value.WellFormed) {text : String}
    (edited : Edited value text.toList) :
    value.compact.toList = value.tokens.flatMap Token.write ∧
      parseDocument text = .ok value ∧
      (parseDocument text).map issues = .ok (issues value) ∧
      (parseDocument text).map repair = .ok (repair value) := by
  have parsed : parseDocument text = .ok value := by
    rw [parseDocument, parse_edited wellFormed edited]
    rfl
  rw [parsed]
  exact ⟨value.compact_eq_tokens, rfl, rfl, rfl⟩

/-- An object that holds an array. -/
def unedited : Value :=
  .object [("a", .array [.integer 1, .null])]

/-- The same object with comments that hold marks of the language, one of them behind the number and one
at the end, with wide blanks and with a comma behind both last elements. -/
def editedText : String :=
  "/*]*/\x7b\"a\"//,\x7d\n:\u2003[1/***/,null//\"\u2028,]\ufeff,\x7d//*"

theorem edited_editedText : Edited unedited editedText.toList := by
  refine ⟨[.openBrace, .text "a", .colon, .openBracket, .number (.integer 1), .comma,
    .word "null" true, .comma, .closeBracket, .comma, .closeBrace], ?_, ?_⟩
  · have closed : Trailed [.word "null" true, .closeBracket, .closeBrace]
        [.word "null" true, .comma, .closeBracket, .comma, .closeBrace] :=
      .comma (by decide) (by decide) (.comma (by decide) (by decide) (.keep .none))
    exact .keep (.keep (.keep (.keep (.keep (.keep closed)))))
  · have bracket : Gap "/*]*/".toList := @Gap.blockComment [']'] [] (by decide) .none
    have comma : Gap "//,\x7d\n".toList :=
      @Gap.lineComment [',', '}'] '\n' [] (Text.forall_mem_of_all (by decide)) (by decide) .none
    have wide : Gap "\u2003".toList := .blank (by decide) .none
    have star : Gap "/***/".toList := @Gap.blockComment ['*'] [] (by decide) .none
    have quote : Gap "//\"\u2028".toList :=
      @Gap.lineComment ['"'] '\u2028' [] (Text.forall_mem_of_all (by decide)) (by decide) .none
    have mark : Gap "\ufeff".toList := .blank (by decide) .none
    have last : Arranged [] "//*".toList :=
      @Arranged.lastComment [] ['*'] .none (Text.forall_mem_of_all (by decide))
    exact .token bracket (.token .none (.token comma (.token wide (.token .none (.token star
      (.token .none (.token quote (.token .none (.token mark (.token .none last))))))))))

theorem parseDocument_edited_editedText : unedited.WellFormed ∧ Edited unedited editedText.toList ∧
    parseDocument editedText = .ok unedited := by
  have one : Value.IntegerInRange 1 := by decide
  have wellFormed : unedited.WellFormed := by
    refine Value.wellFormed_object.mpr ⟨by decide, List.forall_mem_singleton.mpr ?_⟩
    exact ⟨one, trivial, trivial⟩
  exact ⟨wellFormed, edited_editedText, (parseDocument_edited wellFormed edited_editedText).2.1⟩

end PermissionRules.Settings
