import PermissionRules.Proofs.Document.Edited

/-! The places of tokens. A text that is cut into tokens consists of gaps and of one piece for each token, which
stand in it in the order of the tokens. Every reader leaves over the end of its text, so that nothing is read
twice and what is skipped between two pieces is a gap. -/
namespace PermissionRules.Document
open Text

/-- What a reader leaves over is the end of the text. -/
def EndsIn {α : Type} (text : List Char) (read : Option (α × List Char)) : Prop :=
  ∀ item rest, read = some (item, rest) → rest <:+ text

namespace EndsIn
variable {α β : Type} {text text' rest : List Char} {read : Option (α × List Char)}

theorem none : EndsIn text (none : Option (α × List Char)) :=
  nofun

theorem some (ending : rest <:+ text) (item : α) : EndsIn text (some (item, rest)) := by
  rintro _ _ ⟨⟩
  exact ending

theorem map (ends : EndsIn text read) (f : α → β) :
    EndsIn text (read.map fun (item, rest) => (f item, rest)) := by
  intro item rest mapped
  obtain ⟨⟨item, left⟩, read, equal⟩ := Option.map_eq_some_iff.mp mapped
  obtain ⟨rfl, rfl⟩ := Prod.mk.inj equal
  exact ends _ _ read

theorem mono (ends : EndsIn text read) (ending : text <:+ text') : EndsIn text' read :=
  fun item rest read => (ends item rest read).trans ending

theorem cons (ends : EndsIn text read) (c : Char) : EndsIn (c :: text) read :=
  ends.mono (List.suffix_cons c text)

end EndsIn

/-! ### Strings and words -/

theorem endsIn_readHex (count : Nat) (text : List Char) : EndsIn text (readHex count text) := by
  unfold readHex
  extract_lets digits
  split
  · exact .some (List.drop_suffix count text) _
  · exact .none

theorem endsIn_readUnicodeEscape (text : List Char) : EndsIn text (readUnicodeEscape text) := by
  fun_cases readUnicodeEscape text with
  | case1 | case2 | case4 | case5 | case6 => exact .none
  | case3 unit lead second trail rest low paired first =>
    have inside := (endsIn_readHex 4 second _ _ low).trans (List.suffix_append ['\\', 'u'] second)
    exact .some (inside.trans (endsIn_readHex 4 text _ _ first)) _
  | case7 unit rest first single alone => exact .some (endsIn_readHex 4 text _ _ first) _

theorem endsIn_readEscape (text : List Char) : EndsIn text (readEscape text) := by
  fun_cases readEscape text with
  | case1 | case8 | case14 => exact .none
  | case10 rest => exact ((endsIn_readHex 2 rest).map fun n => [Char.ofNat n]).cons 'x'
  | case11 rest => exact ((endsIn_readUnicodeEscape rest).map fun c => [c]).cons 'u'
  | case12 rest => exact .some (List.suffix_append ['\r', '\n'] rest) _
  | _ => exact .some (List.suffix_cons _ _) _

theorem endsIn_readString (quote : Char) (text : List Char) : EndsIn text (readString quote text) := by
  fun_induction readString quote text with
  | case1 | case2 | case5 => exact .none
  | case3 escape denoted after read ih =>
    have ending := endsIn_readEscape escape _ _ read
    exact (ih.map (denoted ++ ·)).mono (ending.trans (List.suffix_cons '\\' escape))
  | case4 c rest => exact .some (List.suffix_cons c rest) _
  | case6 c rest plain inside raw ih => exact (ih.map (c :: ·)).cons c

theorem readWordRest_suffix {text name rest : List Char} {plain : Bool}
    (read : readWordRest text = some (name, plain, rest)) : rest <:+ text := by
  fun_induction readWordRest text generalizing name plain with
  | case1 | case3 => contradiction
  | case2 escape c after unit inside ih =>
    obtain ⟨⟨name, plain, left⟩, onward, equal⟩ := Option.map_eq_some_iff.mp read
    cases equal
    exact (ih onward).trans
      ((endsIn_readUnicodeEscape escape _ _ unit).trans (List.suffix_append ['\\', 'u'] escape))
  | case4 | case6 =>
    cases read
    exact List.suffix_rfl
  | case5 c after unescaped inside ih =>
    obtain ⟨⟨name, plain, left⟩, onward, equal⟩ := Option.map_eq_some_iff.mp read
    cases equal
    exact (ih onward).trans (List.suffix_cons c after)

theorem endsIn_readWord (text : List Char) : EndsIn text (readWord text) := by
  intro token rest read
  fun_cases readWord text with
  | case1 | case3 | case5 | case6 => simp_all [readWord]
  | case2 escape c after unit start =>
    simp only [readWord, unit, start, if_true] at read
    obtain ⟨⟨name, plain, left⟩, onward, equal⟩ := Option.map_eq_some_iff.mp read
    cases equal
    exact (readWordRest_suffix onward).trans
      ((endsIn_readUnicodeEscape escape _ _ unit).trans (List.suffix_append ['\\', 'u'] escape))
  | case4 c after unescaped start =>
    rw [readWord.eq_2 _ _ unescaped, if_pos start] at read
    obtain ⟨⟨name, plain, left⟩, onward, equal⟩ := Option.map_eq_some_iff.mp read
    cases equal
    exact (readWordRest_suffix onward).trans (List.suffix_cons c after)

/-! ### Numbers -/

theorem endsIn_readDecimal (negative : Bool) (text : List Char) :
    EndsIn text (readDecimal negative text) := by
  intro value rest read
  simp only [readDecimal, Option.map_eq_some_iff, Prod.mk.injEq] at read
  obtain ⟨_, _, _, rfl⟩ := read
  exact List.dropWhile_suffix isNumeralRun

theorem endsIn_readHexadecimal (negative : Bool) (text : List Char) :
    EndsIn text (readHexadecimal negative text) := by
  intro value rest read
  simp only [readHexadecimal, Option.map_eq_some_iff, Prod.mk.injEq] at read
  obtain ⟨_, _, _, rfl⟩ := read
  exact List.dropWhile_suffix isHexDigit

theorem endsIn_readNonFinite (text : List Char) : EndsIn text (readNonFinite text) := by
  fun_cases readNonFinite text with
  | case1 rest => exact .some (List.suffix_append "Infinity".toList rest) _
  | case2 rest => exact .some (List.suffix_append "NaN".toList rest) _
  | case3 => exact .none

theorem endsIn_readMagnitude (negative : Bool) (text : List Char) :
    EndsIn text (readMagnitude negative text) := by
  fun_cases readMagnitude negative text with
  | case1 | case4 => exact .none
  | case2 => exact .some (List.suffix_cons '0' []) _
  | case3 c following => exact ((endsIn_readHexadecimal negative following).cons c).cons '0'
  | case5 c following => exact endsIn_readDecimal negative _
  | case6 c following => exact .some (List.suffix_cons '0' _) _
  | case7 => exact endsIn_readDecimal negative _
  | case8 => exact endsIn_readNonFinite _

theorem endsIn_readNumber (text : List Char) : EndsIn text (readNumber text) := by
  fun_cases readNumber text with
  | case1 rest => exact (endsIn_readMagnitude false rest).cons '+'
  | case2 rest => exact (endsIn_readMagnitude true rest).cons '-'
  | case3 => exact endsIn_readMagnitude false text

theorem endsIn_readToken (text : List Char) : EndsIn text (readToken text) := by
  fun_cases readToken text with
  | case1 => exact .none
  | case2 | case3 | case4 | case5 | case6 | case7 => exact .some (List.suffix_cons _ _) _
  | case8 c rest => exact ((endsIn_readString c rest).map fun text => Token.text (.ofList text)).cons c
  | case9 c rest => exact (endsIn_readNumber (c :: rest)).map Token.number
  | case10 c rest => exact endsIn_readWord (c :: rest)

/-! ### Gaps and pieces -/

/-- A text is cut into tokens: gaps, and between them the pieces that are read as the tokens. -/
inductive Cut : List Char → List Token → Prop where
  | last {text} : Arranged [] text → Cut text []
  | token {gap piece rest token tokens} : Gap gap → readToken (piece ++ rest) = some (token, rest) →
      Cut rest tokens → Cut (gap ++ piece ++ rest) (token :: tokens)

/-- A line comment that goes on to the end of the text. -/
def LastComment (text : List Char) : Prop :=
  ∃ body, (∀ c ∈ body, c ∉ lineEnds) ∧ text = '/' :: '/' :: body

/-- A gap stands in front of the rest of a text, or of a comment to the end of the text. -/
def GapBefore (text rest : List Char) : Prop :=
  ∃ gap tail, Gap gap ∧ text = gap ++ tail ∧ (tail = rest ∨ rest = [] ∧ LastComment tail)

variable {text rest front : List Char} {spelled : List Token}

theorem gapBefore_self (rest : List Char) : GapBefore rest rest :=
  ⟨[], rest, .none, rfl, .inl rfl⟩

theorem GapBefore.prepend (before : GapBefore text rest) (longer : ∀ gap, Gap gap → Gap (front ++ gap)) :
    GapBefore (front ++ text) rest := by
  obtain ⟨gap, tail, isGap, rfl, ending⟩ := before
  exact ⟨front ++ gap, tail, longer gap isGap, (List.append_assoc front gap tail).symm, ending⟩

/-- What a mode has to skip in front of the rest of a text. -/
def Skips : LayoutMode → List Char → List Char → Prop
  | .between, text, rest => GapBefore text rest
  | .lineComment, text, rest =>
    (∃ body stop after, (∀ c ∈ body, c ∉ lineEnds) ∧ stop ∈ lineEnds ∧ text = body ++ stop :: after ∧
      GapBefore after rest) ∨
    rest = [] ∧ ∀ c ∈ text, c ∉ lineEnds
  | .blockComment, text, rest =>
    ∃ body after, ¬ ['*', '/'] <:+: body ∧ text = body ++ '*' :: '/' :: after ∧ GapBefore after rest

theorem gapBefore_lineComment (skips : Skips .lineComment text rest) : GapBefore ('/' :: '/' :: text) rest := by
  rcases skips with ⟨body, stop, after, inside, ends, rfl, before⟩ | ⟨rfl, inside⟩
  · have split : '/' :: '/' :: (body ++ stop :: after) = ('/' :: '/' :: body ++ [stop]) ++ after := by simp
    rw [split]
    refine before.prepend fun gap isGap => ?_
    rw [List.append_assoc, List.singleton_append]
    exact .lineComment inside ends isGap
  · exact ⟨[], _, .none, rfl, .inr ⟨rfl, text, inside, rfl⟩⟩

theorem gapBefore_blockComment (skips : Skips .blockComment text rest) :
    GapBefore ('/' :: '*' :: text) rest := by
  obtain ⟨body, after, unclosed, rfl, before⟩ := skips
  have split : '/' :: '*' :: (body ++ '*' :: '/' :: after) = ('/' :: '*' :: body ++ ['*', '/']) ++ after := by
    simp
  rw [split]
  refine before.prepend fun gap isGap => ?_
  rw [List.append_assoc]
  exact .blockComment unclosed isGap

theorem skips_of_skipLayout {mode : LayoutMode} (skipped : skipLayout mode text = some rest) :
    Skips mode text rest := by
  fun_induction skipLayout mode text with
  | case1 =>
    cases skipped
    exact gapBefore_self []
  | case2 text ih => exact gapBefore_lineComment (ih skipped)
  | case3 text ih => exact gapBefore_blockComment (ih skipped)
  | case4 c text line block blank ih =>
    exact @GapBefore.prepend _ _ [c] (ih skipped) fun gap isGap => .blank (mem_layoutBlanks blank) isGap
  | case5 c text line block token =>
    cases skipped
    exact gapBefore_self _
  | case6 =>
    cases skipped
    exact .inr ⟨rfl, List.forall_mem_nil _⟩
  | case7 c text ends ih =>
    exact .inl ⟨[], c, text, List.forall_mem_nil _, isLineEnd_iff.mp ends, rfl, ih skipped⟩
  | case8 c text goesOn ih =>
    have inside := mt isLineEnd_iff.mpr goesOn
    rcases ih skipped with ⟨body, stop, after, others, ends, rfl, before⟩ | ⟨last, others⟩
    · exact .inl ⟨c :: body, stop, after, List.forall_mem_cons.mpr ⟨inside, others⟩, ends, rfl, before⟩
    · exact .inr ⟨last, List.forall_mem_cons.mpr ⟨inside, others⟩⟩
  | case9 => contradiction
  | case10 text ih => exact ⟨[], text, by decide, rfl, ih skipped⟩
  | case11 c text goesOn ih =>
    obtain ⟨body, after, unclosed, rfl, before⟩ := ih skipped
    refine ⟨c :: body, after, ?_, rfl, before⟩
    -- The end of the comment would have been seen at this character.
    rw [List.infix_cons_iff, not_or]
    refine ⟨?_, unclosed⟩
    rintro ⟨tail, ending⟩
    obtain ⟨star, slash⟩ := List.cons.inj ending
    exact goesOn (tail ++ '*' :: '/' :: after) star.symm (by rw [← slash]; rfl)

theorem arranged_of_gapBefore (before : GapBefore text []) : Arranged [] text := by
  obtain ⟨gap, tail, isGap, rfl, rfl | ⟨_, body, inside, rfl⟩⟩ := before
  · rw [List.append_nil]
    exact .last isGap
  · exact .lastComment isGap inside

theorem tokens_of_cut (cut : Cut text spelled) : tokens text = some spelled := by
  induction cut with
  | last arranged => exact @tokens_arranged _ _ .start _ arranged nofun rfl
  | token isGap read _ ih =>
    rw [List.append_assoc, tokens_gap isGap, tokens_token read, ih]
    rfl

theorem cut_of_tokens (read : tokens text = some spelled) : Cut text spelled := by
  fun_induction tokens text generalizing spelled with
  | case1 text skipped => contradiction
  | case2 text skipped =>
    cases read
    exact .last (arranged_of_gapBefore (skips_of_skipLayout skipped))
  | case3 text c rest skipped unread => contradiction
  | case4 text c rest skipped token after first ih =>
    obtain ⟨others, onward, rfl⟩ := Option.map_eq_some_iff.mp read
    obtain ⟨piece, whole⟩ := endsIn_readToken _ _ _ first
    obtain ⟨gap, tail, isGap, rfl, rfl | ⟨none, _⟩⟩ := skips_of_skipLayout skipped
    · rw [← whole, ← List.append_assoc]
      exact .token isGap (whole ▸ first) (ih onward)
    · contradiction

/-- The tokens of a text are those that it is cut into. -/
theorem cut_iff : Cut text spelled ↔ tokens text = some spelled :=
  ⟨tokens_of_cut, cut_of_tokens⟩

end PermissionRules.Document
