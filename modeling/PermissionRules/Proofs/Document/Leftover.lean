import PermissionRules.Proofs.Document.Outside

/-! What the readers of tokens leave over. Each of them stops before a character behind the text that is in no
token, and reads of the text what it reads without this character. So the text has the same tokens. -/
namespace PermissionRules.Document
open Text

/-- What a reader makes of a text with one more character behind it, it makes of the text alone, and the
character is left over. -/
def Leaves {α : Type} (last : Char) (read : List Char → Option (α × List Char)) (text : List Char) : Prop :=
  ∀ item rest, read (text ++ [last]) = some (item, rest) →
    ∃ kept, rest = kept ++ [last] ∧ read text = some (item, kept)

variable {last : Char} {text rest : List Char}

theorem leaves_map {α β : Type} {read : List Char → Option (α × List Char)} (leaves : Leaves last read text)
    (f : α → β) {item : β}
    (mapped : (read (text ++ [last])).map (fun (item, rest) => (f item, rest)) = some (item, rest)) :
    ∃ kept, rest = kept ++ [last] ∧
      (read text).map (fun (item, rest) => (f item, rest)) = some (item, kept) := by
  obtain ⟨⟨item, left⟩, read', equal⟩ := Option.map_eq_some_iff.mp mapped
  obtain ⟨rfl, rfl⟩ := Prod.mk.inj equal
  obtain ⟨kept, rfl, read''⟩ := leaves item left read'
  exact ⟨kept, rfl, by rw [read'']; rfl⟩

/-! ### Strings -/

theorem leaves_readHex (outside : Outside last) (count : Nat) (text : List Char) :
    Leaves last (readHex count) text := by
  intro number rest read
  simp only [readHex, Option.ite_none_right_eq_some, Bool.and_eq_true, decide_eq_true_eq, Option.some.injEq,
    Prod.mk.injEq] at read
  obtain ⟨⟨length, digits⟩, rfl, rfl⟩ := read
  have inside : count ≤ text.length := by
    refine Nat.le_of_not_lt fun short => ?_
    have whole : (text ++ [last]).take count = text ++ [last] :=
      List.take_of_length_le (by simp; omega)
    rw [whole, List.all_append] at digits
    simp [outside.hexadecimal] at digits
  rw [List.take_append_of_le_length inside] at length digits ⊢
  refine ⟨text.drop count, List.drop_append_of_le_length inside, ?_⟩
  simp [readHex, length, digits]

theorem leaves_readUnicodeEscape (outside : Outside last) (text : List Char) :
    Leaves last readUnicodeEscape text := by
  have apart : last ∉ ['\\', 'u'] := outside.not_mem (forall_mem_of_all (by decide))
  intro c rest read
  unfold readUnicodeEscape at read ⊢
  split at read
  case h_1 => contradiction
  case h_2 unit after digits =>
    obtain ⟨kept, rfl, digits'⟩ := leaves_readHex outside 4 text _ _ digits
    rw [digits']
    dsimp only
    split at read
    case isTrue lead =>
      rw [if_pos lead]
      split at read
      case h_1 second same =>
        obtain ⟨second, rfl, rfl⟩ := eq_append_of_concat apart same
        split at read
        case h_1 => contradiction
        case h_2 trail after digits =>
          obtain ⟨kept, rfl, digits'⟩ := leaves_readHex outside 4 _ _ _ digits
          simp only [Option.ite_none_right_eq_some, Option.some.injEq, Prod.mk.injEq] at read
          obtain ⟨trail', rfl, rfl⟩ := read
          exact ⟨kept, rfl, by simp [digits', trail']⟩
      case h_2 => contradiction
    case isFalse single =>
      rw [if_neg single]
      split at read
      case isTrue => contradiction
      case isFalse alone =>
        obtain ⟨rfl, rfl⟩ := Prod.mk.inj (Option.some.inj read)
        exact ⟨kept, rfl, if_neg alone⟩

/-- An escape may take the character, but then nothing is left for the end of its string. -/
theorem readEscape_concat (outside : Outside last) {denoted : List Char}
    (read : readEscape (text ++ [last]) = some (denoted, rest)) :
    rest = [] ∨ ∃ kept, rest = kept ++ [last] ∧ readEscape text = some (denoted, kept) := by
  unfold readEscape at read
  split at read
  case h_1 => contradiction
  case h_8 after same =>
    obtain ⟨text, rfl, rfl⟩ := eq_cons_of_concat (outside.ne (by decide)) same
    split at read
    case isTrue => contradiction
    case isFalse apart =>
      obtain ⟨rfl, rfl⟩ := Prod.mk.inj (Option.some.inj read)
      refine .inr ⟨text, rfl, ?_⟩
      cases text with
      | nil => rfl
      | cons c text => exact if_neg apart
  case h_9 after same =>
    obtain ⟨text, rfl, rfl⟩ := eq_cons_of_concat (outside.ne (by decide)) same
    exact .inr (leaves_map (leaves_readHex outside 2 text) (fun n => [Char.ofNat n]) read)
  case h_10 after same =>
    obtain ⟨text, rfl, rfl⟩ := eq_cons_of_concat (outside.ne (by decide)) same
    exact .inr (leaves_map (leaves_readUnicodeEscape outside text) (fun c => [c]) read)
  case h_11 after same =>
    obtain ⟨rfl, rfl⟩ := Prod.mk.inj (Option.some.inj read)
    rcases text with _ | ⟨c, _ | ⟨d, text⟩⟩
    · simp at same
    · exact .inl (by simp_all)
    · obtain ⟨rfl, rfl, rfl⟩ := by simpa using same
      exact .inr ⟨text, rfl, rfl⟩
  case h_12 c after b t n v f r zero x u lineFeed same =>
    have left : rest = after := by
      split at read
      · exact (Prod.mk.inj (Option.some.inj read)).2.symm
      · exact (Prod.mk.inj (Option.some.inj (Option.ite_none_left_eq_some.mp read).2)).2.symm
    cases text with
    | nil => exact .inl (left.trans (List.cons.inj same).2.symm)
    | cons d text =>
      obtain ⟨rfl, rfl⟩ := List.cons.inj same
      subst left
      refine .inr ⟨text, rfl, ?_⟩
      rw [readEscape.eq_12 d text b t n v f r zero x u fun after return' same =>
        lineFeed (after ++ [last]) return' (same ▸ rfl)]
      split at read <;> simp_all
  all_goals
    rename_i after same
    obtain ⟨text, rfl, rfl⟩ := eq_cons_of_concat (outside.ne (by decide)) same
    obtain ⟨rfl, rfl⟩ := Prod.mk.inj (Option.some.inj read)
    exact .inr ⟨text, rfl, rfl⟩

theorem readString_nil (quote : Char) : readString quote [] = none := by
  rw [readString]

theorem readString_eq (quote : Char) (escape : List Char) : readString quote ('\\' :: escape) =
    (readEscape escape).bind fun read =>
      (readString quote read.2).map fun inner => (read.1 ++ inner.1, inner.2) := by
  rw [readString]
  split
  case h_1 none => rw [none]; rfl
  case h_2 some => rw [some]; rfl

/-- The escape that a string goes on with is the same without the character. -/
theorem readString_escape_concat (outside : Outside last) {quote : Char} {escape denoted : List Char}
    (read : readString quote ('\\' :: escape ++ [last]) = some (denoted, rest)) :
    ∃ unescaped kept inner, readEscape escape = some (unescaped, kept) ∧
      readString quote (kept ++ [last]) = some (inner, rest) ∧ unescaped ++ inner = denoted := by
  rw [List.cons_append, readString_eq] at read
  obtain ⟨⟨unescaped, after⟩, escape', read⟩ := Option.bind_eq_some_iff.mp read
  obtain ⟨⟨inner, left⟩, inside, equal⟩ := Option.map_eq_some_iff.mp read
  obtain ⟨rfl, rfl⟩ := Prod.mk.inj equal
  rcases readEscape_concat outside escape' with rfl | ⟨kept, rfl, escape''⟩
  · rw [readString_nil] at inside
    contradiction
  · exact ⟨unescaped, kept, inner, escape'', inside, rfl⟩

theorem leaves_readString (outside : Outside last) {quote : Char} (different : last ≠ quote)
    (text : List Char) : Leaves last (readString quote) text := by
  have backslash : last ≠ '\\' := outside.ne (by decide)
  intro denoted rest read
  fun_induction readString quote text generalizing denoted rest with
  | case1 =>
    rw [List.nil_append, readString.eq_3 _ _ _ backslash, readString_nil] at read
    simp [different] at read
  | case2 escape refused =>
    obtain ⟨unescaped, kept, inner, accepted, _⟩ := readString_escape_concat outside read
    rw [refused] at accepted
    contradiction
  | case3 escape unescaped after accepted ih =>
    obtain ⟨unescaped', kept, inner, accepted', inside, rfl⟩ := readString_escape_concat outside read
    obtain ⟨rfl, rfl⟩ := Prod.mk.inj (Option.some.inj (accepted.symm.trans accepted'))
    exact leaves_map ih (unescaped ++ ·) (by rw [inside]; rfl)
  | case4 c after plain closing =>
    rw [List.cons_append, readString.eq_3 _ _ _ plain, if_pos closing] at read
    obtain ⟨rfl, rfl⟩ := Prod.mk.inj (Option.some.inj read)
    exact ⟨after, rfl, rfl⟩
  | case5 c after plain inside break' =>
    rw [List.cons_append, readString.eq_3 _ _ _ plain, if_neg inside, if_pos break'] at read
    contradiction
  | case6 c after plain inside raw ih =>
    rw [List.cons_append, readString.eq_3 _ _ _ plain, if_neg inside, if_neg raw] at read
    exact leaves_map ih (c :: ·) read

/-! ### Words -/

theorem readWordRest_escape (escape : List Char) : readWordRest ('\\' :: 'u' :: escape) =
    (readUnicodeEscape escape).bind fun read =>
      if isIdentifierRest read.1 then
        (readWordRest read.2).map fun inner => (read.1 :: inner.1, false, inner.2.2)
      else none := by
  rw [readWordRest]
  split
  case h_1 none => rw [none]; rfl
  case h_2 some => rw [some]; rfl

theorem unescaped_concat (outside : Outside last) {c : Char} {after : List Char}
    (unescaped : ∀ escape, c = '\\' → after = 'u' :: escape → False) :
    ∀ escape, c = '\\' → after ++ [last] = 'u' :: escape → False :=
  fun escape start => outside.ne_concat (by decide) (fun escape => unescaped escape start) escape

theorem readWordRest_escape_concat (outside : Outside last) {escape : List Char}
    {item : List Char × Bool × List Char}
    (read : readWordRest ('\\' :: 'u' :: escape ++ [last]) = some item) :
    ∃ c kept inner, readUnicodeEscape escape = some (c, kept) ∧ isIdentifierRest c = true ∧
      readWordRest (kept ++ [last]) = some inner ∧ (c :: inner.1, false, inner.2.2) = item := by
  rw [List.cons_append, List.cons_append, readWordRest_escape] at read
  obtain ⟨⟨c, after⟩, unit, read⟩ := Option.bind_eq_some_iff.mp read
  obtain ⟨kept, rfl, unit'⟩ := leaves_readUnicodeEscape outside _ _ _ unit
  obtain ⟨inside, read⟩ := Option.ite_none_right_eq_some.mp read
  obtain ⟨inner, onward, rfl⟩ := Option.map_eq_some_iff.mp read
  exact ⟨c, kept, inner, unit', inside, onward, rfl⟩

theorem readWordRest_concat (outside : Outside last) {name : List Char} {plain : Bool}
    (read : readWordRest (text ++ [last]) = some (name, plain, rest)) :
    ∃ kept, rest = kept ++ [last] ∧ readWordRest text = some (name, plain, kept) := by
  have backslash : last ≠ '\\' := outside.ne (by decide)
  fun_induction readWordRest text generalizing name plain with
  | case1 escape refused =>
    obtain ⟨c, kept, inner, accepted, _⟩ := readWordRest_escape_concat outside read
    rw [refused] at accepted
    contradiction
  | case2 escape c after unit inside ih =>
    obtain ⟨c', kept, ⟨inner, plain', left⟩, unit', _, onward, equal⟩ :=
      readWordRest_escape_concat outside read
    obtain ⟨rfl, rfl⟩ := Prod.mk.inj (Option.some.inj (unit.symm.trans unit'))
    obtain ⟨rfl, rfl, rfl⟩ := by simpa only [Prod.mk.injEq] using equal
    obtain ⟨kept, rfl, onward'⟩ := ih onward
    exact ⟨kept, rfl, by rw [onward']; rfl⟩
  | case3 escape c after unit stop =>
    obtain ⟨c', kept, inner, unit', inside, _⟩ := readWordRest_escape_concat outside read
    obtain ⟨rfl, rfl⟩ := Prod.mk.inj (Option.some.inj (unit.symm.trans unit'))
    exact absurd inside stop
  | case4 =>
    rw [List.nil_append, readWordRest.eq_3 _ _ fun _ equal => absurd equal backslash, outside.identifier] at read
    obtain ⟨rfl, rfl, rfl⟩ := by simpa using read
    exact ⟨[], rfl, rfl⟩
  | case5 c after unescaped inside ih =>
    rw [List.cons_append, readWordRest.eq_3 _ _ (unescaped_concat outside unescaped), if_pos inside] at read
    obtain ⟨⟨inner, plain', left⟩, onward, equal⟩ := Option.map_eq_some_iff.mp read
    obtain ⟨rfl, rfl, rfl⟩ := by simpa only [Prod.mk.injEq] using equal
    obtain ⟨kept, rfl, onward'⟩ := ih onward
    exact ⟨kept, rfl, by rw [onward']; rfl⟩
  | case6 c after unescaped stop =>
    rw [List.cons_append, readWordRest.eq_3 _ _ (unescaped_concat outside unescaped), if_neg stop] at read
    obtain ⟨rfl, rfl, rfl⟩ := by simpa only [Option.some.injEq, Prod.mk.injEq] using read
    exact ⟨c :: after, rfl, rfl⟩

theorem leaves_readWord (outside : Outside last) (text : List Char) : Leaves last readWord text := by
  intro token rest read
  unfold readWord at read
  split at read
  case h_1 escape same =>
    have apart : last ∉ ['\\', 'u'] := outside.not_mem (forall_mem_of_all (by decide))
    obtain ⟨escape, rfl, rfl⟩ := eq_append_of_concat apart same
    split at read
    case h_1 => contradiction
    case h_2 c after unit =>
      obtain ⟨kept, rfl, unit'⟩ := leaves_readUnicodeEscape outside _ _ _ unit
      obtain ⟨start, read⟩ := Option.ite_none_right_eq_some.mp read
      obtain ⟨⟨name, plain, left⟩, onward, equal⟩ := Option.map_eq_some_iff.mp read
      obtain ⟨rfl, rfl⟩ := Prod.mk.inj equal
      obtain ⟨kept, rfl, onward'⟩ := readWordRest_concat outside onward
      exact ⟨kept, rfl, by simp [readWord, unit', start, onward']⟩
  case h_2 c after unescaped same =>
    obtain ⟨start, read⟩ := Option.ite_none_right_eq_some.mp read
    cases text with
    | nil =>
      obtain ⟨rfl, rfl⟩ := List.cons.inj same
      rw [outside.start] at start
      contradiction
    | cons d text =>
      obtain ⟨rfl, rfl⟩ := List.cons.inj same
      have unescaped' : ∀ escape, d = '\\' → text = 'u' :: escape → False :=
        fun escape start same => unescaped (escape ++ [last]) start (same ▸ rfl)
      obtain ⟨⟨name, plain, left⟩, onward, equal⟩ := Option.map_eq_some_iff.mp read
      obtain ⟨rfl, rfl⟩ := Prod.mk.inj equal
      obtain ⟨kept, rfl, onward'⟩ := readWordRest_concat outside onward
      exact ⟨kept, rfl, by rw [readWord.eq_2 _ _ unescaped', if_pos start, onward']; rfl⟩
  case h_3 => contradiction

/-! ### Numbers -/

/-- A reader of a run stops before the character. -/
theorem leaves_run {α β : Type} {p : Char → Bool} (stop : p last = false) (parse : List Char → Option α)
    (f : α → β) (text : List Char) : Leaves last
      (fun text => (parse (text.takeWhile p)).map fun item => (f item, text.dropWhile p)) text := by
  intro item rest read
  dsimp only at read ⊢
  rw [takeWhile_concat stop, dropWhile_concat stop] at read
  obtain ⟨part, parsed, equal⟩ := Option.map_eq_some_iff.mp read
  obtain ⟨rfl, rfl⟩ := Prod.mk.inj equal
  exact ⟨_, rfl, by rw [parsed]; rfl⟩

theorem leaves_readDecimal (outside : Outside last) (negative : Bool) (text : List Char) :
    Leaves last (readDecimal negative) text :=
  leaves_run outside.numeral Numeral.ofText? (·.value negative) text

theorem leaves_readHexadecimal (outside : Outside last) (negative : Bool) (text : List Char) :
    Leaves last (readHexadecimal negative) text :=
  leaves_run outside.hexadecimal (hexValue? negative) id text

theorem leaves_readNonFinite (outside : Outside last) (text : List Char) :
    Leaves last readNonFinite text := by
  intro value rest read
  unfold readNonFinite at read
  split at read
  case h_1 after same =>
    have apart : last ∉ ['I', 'n', 'f', 'i', 'n', 'i', 't', 'y'] :=
      outside.not_mem (forall_mem_of_all (by decide))
    obtain ⟨kept, rfl, rfl⟩ := eq_append_of_concat apart same
    obtain ⟨rfl, rfl⟩ := Prod.mk.inj (Option.some.inj read)
    exact ⟨kept, rfl, rfl⟩
  case h_2 after same =>
    have apart : last ∉ ['N', 'a', 'N'] := outside.not_mem (forall_mem_of_all (by decide))
    obtain ⟨kept, rfl, rfl⟩ := eq_append_of_concat apart same
    obtain ⟨rfl, rfl⟩ := Prod.mk.inj (Option.some.inj read)
    exact ⟨kept, rfl, rfl⟩
  case h_3 => contradiction

/-- The character behind a zero of its own. -/
theorem readMagnitude_zero_concat (outside : Outside last) (negative : Bool) :
    readMagnitude negative ('0' :: [last]) = some (.integer 0, [last]) := by
  have letter : last ≠ 'x' ∧ last ≠ 'X' ∧ last ≠ 'e' ∧ last ≠ 'E' ∧ last ≠ '.' :=
    ⟨outside.ne (by decide), outside.ne (by decide), outside.ne (by decide), outside.ne (by decide),
      outside.ne (by decide)⟩
  simp [readMagnitude, letter, outside.digit]

theorem leaves_readMagnitude (outside : Outside last) (negative : Bool) (text : List Char) :
    Leaves last (readMagnitude negative) text := by
  intro value rest read
  fun_cases readMagnitude negative text with
  | case1 =>
    have zero : last ≠ '0' := outside.ne (by decide)
    have point : last ≠ '.' := outside.ne (by decide)
    rw [List.nil_append, readMagnitude.eq_4 _ _ _ zero] at read
    simp only [outside.digit, beq_false_of_ne point, Bool.or_self, Bool.false_eq_true, if_false] at read
    exact leaves_readNonFinite outside [] _ _ read
  | case2 =>
    rw [List.cons_append, List.nil_append, readMagnitude_zero_concat outside] at read
    obtain ⟨rfl, rfl⟩ := Prod.mk.inj (Option.some.inj read)
    exact ⟨[], rfl, rfl⟩
  | case3 c following mark =>
    simp only [List.cons_append, readMagnitude, mark, if_true] at read
    exact leaves_readHexadecimal outside negative following _ _ read
  | case4 c following mark digit =>
    simp only [List.cons_append, readMagnitude, mark, digit, if_true] at read
    contradiction
  | case5 c following mark digit decimal =>
    simp only [List.cons_append, readMagnitude, mark, digit, decimal, if_true] at read
    exact leaves_readDecimal outside negative ('0' :: c :: following) _ _ read
  | case6 c following mark digit decimal =>
    simp only [List.cons_append, readMagnitude, mark, digit, decimal] at read
    obtain ⟨rfl, rfl⟩ := Prod.mk.inj (Option.some.inj read)
    exact ⟨c :: following, rfl, rfl⟩
  | case7 c following zero decimal =>
    rw [List.cons_append, readMagnitude.eq_4 _ _ _ zero, if_pos decimal] at read
    exact leaves_readDecimal outside negative (c :: following) _ _ read
  | case8 c following zero decimal =>
    rw [List.cons_append, readMagnitude.eq_4 _ _ _ zero, if_neg decimal] at read
    exact leaves_readNonFinite outside (c :: following) _ _ read

theorem leaves_readNumber (outside : Outside last) (text : List Char) : Leaves last readNumber text := by
  intro value rest read
  fun_cases readNumber text with
  | case1 text => exact leaves_readMagnitude outside false text _ _ read
  | case2 text => exact leaves_readMagnitude outside true text _ _ read
  | case3 text plus minus =>
    rw [readNumber.eq_3 _ (outside.ne_concat (by decide) plus) (outside.ne_concat (by decide) minus)] at read
    exact leaves_readMagnitude outside false text _ _ read

/-! ### Tokens -/

theorem readToken_outside (outside : Outside last) (text : List Char) :
    readToken (last :: text) = none := by
  have backslash : last ≠ '\\' := outside.ne (by decide)
  have quote : ¬ (last == '"' || last == '\x27') = true := by
    simp only [Bool.or_eq_true, beq_iff_eq, not_or]
    exact ⟨outside.ne (by decide), outside.ne (by decide)⟩
  have number : ¬ (last == '+' || last == '-' || last == '.' || last.isDigit) = true := by
    simp only [Bool.or_eq_true, beq_iff_eq, not_or, outside.digit]
    exact ⟨⟨⟨outside.ne (by decide), outside.ne (by decide)⟩, outside.ne (by decide)⟩, Bool.false_ne_true⟩
  rw [readToken.eq_8 _ _ (outside.ne (by decide)) (outside.ne (by decide)) (outside.ne (by decide))
    (outside.ne (by decide)) (outside.ne (by decide)) (outside.ne (by decide)), if_neg quote, if_neg number,
    readWord.eq_2 _ _ (fun _ equal => absurd equal backslash), if_neg (outside.start ▸ Bool.false_ne_true)]

theorem leaves_readToken (outside : Outside last) (text : List Char) : Leaves last readToken text := by
  intro token rest read
  fun_cases readToken text with
  | case1 =>
    rw [List.nil_append, readToken_outside outside] at read
    contradiction
  | case2 text | case3 text | case4 text | case5 text | case6 text | case7 text =>
    obtain ⟨rfl, rfl⟩ := Prod.mk.inj (Option.some.inj read)
    exact ⟨text, rfl, rfl⟩
  | case8 c text openBrace closeBrace openBracket closeBracket colon comma quote =>
    rw [List.cons_append, readToken.eq_8 _ _ openBrace closeBrace openBracket closeBracket colon comma,
      if_pos quote] at read
    have different : last ≠ c := by
      simp only [Bool.or_eq_true, beq_iff_eq] at quote
      rcases quote with rfl | rfl
      · exact outside.ne (by decide)
      · exact outside.ne (by decide)
    exact leaves_map (leaves_readString outside different text) (fun text => Token.text (.ofList text)) read
  | case9 c text openBrace closeBrace openBracket closeBracket colon comma quote number =>
    rw [List.cons_append, readToken.eq_8 _ _ openBrace closeBrace openBracket closeBracket colon comma,
      if_neg quote, if_pos number] at read
    exact leaves_map (leaves_readNumber outside (c :: text)) Token.number read
  | case10 c text openBrace closeBrace openBracket closeBracket colon comma quote number =>
    rw [List.cons_append, readToken.eq_8 _ _ openBrace closeBrace openBracket closeBracket colon comma,
      if_neg quote, if_neg number] at read
    exact leaves_readWord outside (c :: text) _ _ read

/-- A text loses no token with a character behind its last token. -/
theorem tokens_concat (outside : Outside last) {spelled : List Token}
    (cut : tokens (text ++ [last]) = some spelled) : tokens text = some spelled := by
  induction length : text.length using Nat.strongRecOn generalizing text spelled with
  | ind n ih =>
    rw [tokens_eq] at cut ⊢
    obtain ⟨after, skipped, cut⟩ := Option.bind_eq_some_iff.mp cut
    rcases skipLayout_concat outside skipped with ⟨rfl, skipped'⟩ | ⟨kept, rfl, skipped'⟩
    · rw [skipped']
      exact cut
    · rw [skipped', Option.bind_some]
      cases kept with
      | nil =>
        rw [List.nil_append, tokensFrom, readToken_outside outside] at cut
        contradiction
      | cons c kept =>
        rw [List.cons_append, tokensFrom] at cut
        obtain ⟨⟨token, left⟩, read, cut⟩ := Option.bind_eq_some_iff.mp cut
        obtain ⟨others, onward, rfl⟩ := Option.map_eq_some_iff.mp cut
        obtain ⟨kept', rfl, read'⟩ := leaves_readToken outside (c :: kept) _ _ read
        have shorter : kept'.length < n := by
          have := readToken_length read'
          have := skipLayout_length skipped'
          omega
        rw [tokensFrom, read', Option.bind_some, ih _ shorter onward rfl]
        rfl

end PermissionRules.Document
