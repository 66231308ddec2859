import PermissionRules.Document.Lexeme
import PermissionRules.Proofs.Text.Runs

/-! Layout in front of a token. No token starts with a layout character, so that blanks may stand
wherever a token is due and change nothing. -/
namespace PermissionRules.Document
open Text

/-- The layout characters other than those of comments. -/
def layoutBlanks : List Char :=
  ['\t', '\n', '\x0b', '\x0c', '\r', ' ', '\u00a0', '\u1680', '\u2000', '\u2001', '\u2002', '\u2003',
    '\u2004', '\u2005', '\u2006', '\u2007', '\u2008', '\u2009', '\u200a', '\u2028', '\u2029',
    '\u202f', '\u205f', '\u3000', '\ufeff']

theorem mem_layoutBlanks {c : Char} (blank : isLayoutBlank c = true) : c ∈ layoutBlanks := by
  have low : ∀ n < 14, 9 ≤ n → Char.ofNat n ∈ layoutBlanks := by decide
  have wide : ∀ n < 0x200b, 0x2000 ≤ n → Char.ofNat n ∈ layoutBlanks := by
    intro n below above
    have member : ∀ k < 11, Char.ofNat (0x2000 + k) ∈ layoutBlanks := by decide
    obtain ⟨k, rfl⟩ := Nat.exists_eq_add_of_le above
    exact member k (by omega)
  simp only [isLayoutBlank, isBlank, isSpaceSeparator, isSeparator, Bool.or_eq_true,
    Bool.and_eq_true, decide_eq_true_eq, beq_iff_eq, bne_iff_ne] at blank
  rcases blank with ⟨((⟨above, below⟩ | space) | nextLine) | separator, other⟩ | rfl
  · exact Char.ofNat_toNat c ▸ low c.toNat (Nat.lt_succ_of_le below) above
  · rcases space with (((single | ⟨above, below⟩) | rfl) | rfl) | rfl
    · rcases single with (rfl | rfl) | rfl <;> decide
    · exact Char.ofNat_toNat c ▸ wide c.toNat (Nat.lt_succ_of_le below) above
    all_goals decide
  · exact absurd nextLine other
  · rcases separator with rfl | rfl <;> decide
  · decide

theorem isLayoutBlank_of_mem : ∀ c ∈ layoutBlanks, isLayoutBlank c = true :=
  forall_mem_of_all (by decide)

/-- The characters that may stand behind a number or a word: marks that open nothing, layout and the
slash of a comment. -/
def closingCharacters : List Char :=
  [',', ':', ']', '}', '/'] ++ layoutBlanks

theorem isIdentifierRest_closing : ∀ c ∈ closingCharacters, isIdentifierRest c = false :=
  forall_mem_of_all (by decide +kernel)

theorem readToken_start {c : Char} {text rest : List Char} {token : Token}
    (read : readToken (c :: text) = some (token, rest)) : c ≠ '/' ∧ isLayoutBlank c = false := by
  have outside : ∀ c ∈ '/' :: layoutBlanks, c ∉ ['{', '}', '[', ']', ':', ','] ∧
      (c == '"' || c == '\x27') = false ∧ (c == '+' || c == '-' || c == '.' || c.isDigit) = false ∧
      c ≠ '\\' := forall_mem_of_all (by decide)
  have none : ∀ c ∈ '/' :: layoutBlanks, readToken (c :: text) = none := by
    intro c layout
    obtain ⟨bracket, quote, number, backslash⟩ := outside c layout
    have word : isIdentifierStart c = false := by
      have other := isIdentifierRest_closing c (List.mem_append_right [',', ':', ']', '}'] layout)
      simp only [isIdentifierRest, Bool.or_eq_false_iff] at other
      exact other.1.1.1
    simp only [List.mem_cons, List.not_mem_nil, or_false, not_or] at bracket
    obtain ⟨openBrace, closeBrace, openBracket, closeBracket, colon, comma⟩ := bracket
    rw [readToken.eq_8 c text openBrace closeBrace openBracket closeBracket colon comma, quote, number,
      readWord.eq_2 c text fun _ equal => absurd equal backslash, word]
    rfl
  refine ⟨?_, ?_⟩
  · rintro rfl
    exact absurd (none _ List.mem_cons_self) (read ▸ Option.some_ne_none _)
  · cases blank : isLayoutBlank c with
    | false => rfl
    | true =>
      have layout := List.mem_cons_of_mem '/' (mem_layoutBlanks blank)
      exact absurd (none c layout) (read ▸ Option.some_ne_none _)

theorem skipLayout_blank {c : Char} (blank : isLayoutBlank c = true) (text : List Char) :
    skipLayout .between (c :: text) = skipLayout .between text := by
  have slash : c ≠ '/' := by
    rintro rfl
    contradiction
  rw [skipLayout.eq_4 c text (fun _ equal => absurd equal slash) (fun _ equal => absurd equal slash),
    if_pos blank]

theorem skipLayout_start {c : Char} (start : isLayoutBlank c = false) (slash : c ≠ '/')
    (text : List Char) : skipLayout .between (c :: text) = some (c :: text) := by
  rw [skipLayout.eq_4 c text (fun _ equal => absurd equal slash) (fun _ equal => absurd equal slash),
    start]
  rfl

/-- The tokens of a text without leading layout. -/
def tokensFrom : List Char → Option (List Token)
  | [] => some []
  | c :: rest => (readToken (c :: rest)).bind fun read => (tokens read.2).map (read.1 :: ·)

theorem tokens_eq (text : List Char) : tokens text = (skipLayout .between text).bind tokensFrom := by
  rw [tokens]
  split
  case h_1 skipped => rw [skipped]; rfl
  case h_2 skipped => rw [skipped]; rfl
  case h_3 skipped =>
    rw [skipped, Option.bind_some, tokensFrom]
    split
    case h_1 read => rw [read]; rfl
    case h_2 read => rw [read]; rfl

theorem tokens_nil : tokens [] = some [] := by
  rw [tokens]
  rfl

theorem tokens_blank {layout : List Char} (blank : ∀ c ∈ layout, isLayoutBlank c = true)
    (text : List Char) : tokens (layout ++ text) = tokens text := by
  rw [tokens_eq, tokens_eq]
  induction layout with
  | nil => rfl
  | cons c layout ih =>
    rw [List.cons_append, skipLayout_blank (blank c List.mem_cons_self)]
    exact ih fun c member => blank c (List.mem_cons_of_mem _ member)

theorem tokens_token {text rest : List Char} {token : Token}
    (read : readToken text = some (token, rest)) : tokens text = (tokens rest).map (token :: ·) := by
  cases text with
  | nil => simp [readToken] at read
  | cons c text =>
    obtain ⟨slash, start⟩ := readToken_start read
    rw [tokens_eq, skipLayout_start start slash, Option.bind_some, tokensFrom, read]
    rfl

end PermissionRules.Document
