import PermissionRules.Proofs.Document.NumberTokens

/-! Gaps between tokens: whatever blanks and comments stand in front of a token, the reader arrives at the
token. A comment may hold any text that does not end it. -/
namespace PermissionRules.Document

/-- The characters that end a line. -/
def lineEnds : List Char :=
  ['\n', '\r', '\u2028', '\u2029']

/-- A text of blanks, of line comments with the ends of their lines, and of closed block comments. -/
inductive Gap : List Char → Prop where
  | none : Gap []
  | blank {c rest} : c ∈ layoutBlanks → Gap rest → Gap (c :: rest)
  | lineComment {body stop rest} : (∀ c ∈ body, c ∉ lineEnds) → stop ∈ lineEnds → Gap rest →
      Gap ('/' :: '/' :: body ++ stop :: rest)
  | blockComment {body rest} : ¬ ['*', '/'] <:+: body → Gap rest →
      Gap ('/' :: '*' :: body ++ '*' :: '/' :: rest)

theorem isLineEnd_iff {c : Char} : isLineEnd c = true ↔ c ∈ lineEnds := by
  simp [isLineEnd, Text.isSeparator, lineEnds, or_assoc]

variable {body gap : List Char} {stop : Char}

theorem skipLayout_lineComment (inside : ∀ c ∈ body, c ∉ lineEnds) (ends : stop ∈ lineEnds)
    (text : List Char) :
    skipLayout .lineComment (body ++ stop :: text) = skipLayout .between text := by
  induction body with
  | nil => rw [List.nil_append, skipLayout, if_pos (isLineEnd_iff.mpr ends)]
  | cons c body ih =>
    obtain ⟨first, others⟩ := List.forall_mem_cons.mp inside
    rw [List.cons_append, skipLayout, if_neg (mt isLineEnd_iff.mp first), ih others]

/-- The last line comment may end with the text. -/
theorem skipLayout_lastComment (inside : ∀ c ∈ body, c ∉ lineEnds) :
    skipLayout .lineComment body = some [] := by
  induction body with
  | nil => rfl
  | cons c body ih =>
    obtain ⟨first, others⟩ := List.forall_mem_cons.mp inside
    rw [skipLayout, if_neg (mt isLineEnd_iff.mp first), ih others]

theorem skipLayout_blockComment (unclosed : ¬ ['*', '/'] <:+: body) (text : List Char) :
    skipLayout .blockComment (body ++ '*' :: '/' :: text) = skipLayout .between text := by
  induction body with
  | nil => rfl
  | cons c body ih =>
    -- The comment does not end with this character, whatever comes after it.
    have goesOn : ∀ rest, c = '*' → body ++ '*' :: '/' :: text = '/' :: rest → False := by
      rintro rest rfl after
      cases body with
      | nil => exact absurd (List.cons.inj after).1 (by decide)
      | cons next body =>
        obtain rfl : next = '/' := (List.cons.inj after).1
        exact unclosed (List.prefix_append ['*', '/'] body).isInfix
    rw [List.cons_append, skipLayout.eq_9 c _ goesOn]
    exact ih fun inner => unclosed (List.infix_cons inner)

/-- The reader skips a whole gap. -/
theorem skipLayout_gap (isGap : Gap gap) (text : List Char) :
    skipLayout .between (gap ++ text) = skipLayout .between text := by
  induction isGap with
  | none => rfl
  | blank blank _ ih =>
    rw [List.cons_append, skipLayout_blank (isLayoutBlank_of_mem _ blank), ih]
  | @lineComment body stop rest inside ends _ ih =>
    have split : '/' :: '/' :: body ++ stop :: rest ++ text =
        '/' :: '/' :: (body ++ stop :: (rest ++ text)) := by simp
    rw [split, skipLayout, skipLayout_lineComment inside ends, ih]
  | @blockComment body rest unclosed _ ih =>
    have split : '/' :: '*' :: body ++ '*' :: '/' :: rest ++ text =
        '/' :: '*' :: (body ++ '*' :: '/' :: (rest ++ text)) := by simp
    rw [split, skipLayout, skipLayout_blockComment unclosed, ih]

theorem tokens_gap (isGap : Gap gap) (text : List Char) : tokens (gap ++ text) = tokens text := by
  rw [tokens_eq, tokens_eq, skipLayout_gap isGap]

/-- Behind the last token a line comment need not end its line. -/
theorem tokens_lastComment (inside : ∀ c ∈ body, c ∉ lineEnds) :
    tokens ('/' :: '/' :: body) = some [] := by
  rw [tokens_eq]
  show (skipLayout .lineComment body).bind tokensFrom = some []
  rw [skipLayout_lastComment inside]
  rfl

/-- A gap ends the number or the word before it, unless it is empty. -/
theorem closes_gap (isGap : Gap gap) {following : List Char} (closes : Closes following) :
    Closes (gap ++ following) := by
  have slash : '/' ∈ closingCharacters := by decide
  cases isGap with
  | none => exact closes
  | blank blank => exact closes_cons (List.mem_append_right _ blank) _
  | lineComment | blockComment => exact closes_cons slash _

end PermissionRules.Document
