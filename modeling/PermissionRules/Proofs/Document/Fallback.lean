import PermissionRules.Proofs.Document.ReadBack
import PermissionRules.Proofs.Document.StrictTokens

/-! The strict reader is never more than a judge of texts that the relaxed reader refuses. Each of its steps
reads one token, and the relaxed reader takes the same token to a state that differs in values alone; what
tokens may follow does not depend on values. -/
namespace PermissionRules.Document

/-- An open container without what it holds. -/
def Frame.outline : Frame → Frame
  | array _ => array []
  | object _ _ => object [] ""

namespace Reading

/-- A state without values and keys. -/
def outline : Reading → Reading
  | awaitValue stack => awaitValue (stack.map Frame.outline)
  | awaitItem _ stack => awaitItem [] (stack.map Frame.outline)
  | awaitKey _ stack => awaitKey [] (stack.map Frame.outline)
  | awaitColon _ _ stack => awaitColon [] "" (stack.map Frame.outline)
  | complete _ stack => complete .null (stack.map Frame.outline)

theorem outline_outline (frame : Frame) : frame.outline.outline = frame.outline := by
  cases frame <;> rfl

theorem map_outline_outline (stack : List Frame) :
    (stack.map Frame.outline).map Frame.outline = stack.map Frame.outline := by
  rw [List.map_map]
  exact List.map_congr_left fun frame _ => outline_outline frame

variable {reading reading' next : Reading} {token : Token} {stack : List Frame} {value : Value}

theorem begin?_outline (stack : List Frame) (token : Token) :
    (begin? (stack.map Frame.outline) token).map outline = (begin? stack token).map outline := by
  cases token with
  | openBracket | openBrace | text content | number value =>
    simp only [begin?, Option.map_some, outline, map_outline_outline]
  | word name plain =>
    cases plain with
    | true =>
      cases literal : literal? name with
      | none => simp only [begin?, literal, Option.map_none]
      | some value => simp only [begin?, literal, Option.map_some, outline, map_outline_outline]
    | false => rfl
  | _ => rfl

/-- The outline of a state tells which tokens may follow and the outline that each of them leads to. -/
theorem step?_outline (reading : Reading) (token : Token) :
    (reading.outline.step? token).map outline = (reading.step? token).map outline := by
  cases reading with
  | awaitValue stack => exact begin?_outline stack token
  | awaitItem items stack =>
    by_cases closing : token = .closeBracket
    · subst token
      simp only [outline, step?, closeArray, Option.map_some, map_outline_outline]
    · rw [outline, awaits_item _ _ token closing, awaits_item _ _ token closing]
      exact begin?_outline (.array items :: stack) token
  | awaitKey members stack =>
    cases token with
    | closeBrace | text | word =>
      simp only [outline, step?, closeObject, Option.map_some, map_outline_outline]
    | _ => rfl
  | awaitColon members key stack =>
    cases token with
    | colon =>
      simp only [outline, step?, Option.map_some, List.map_cons, Frame.outline, map_outline_outline]
    | _ => rfl
  | complete value stack =>
    cases stack with
    | nil => cases token <;> rfl
    | cons frame stack =>
      cases frame with
      | array items =>
        cases token with
        | comma | closeBracket =>
          simp only [outline, step?, closeArray, Option.map_some, List.map_cons, Frame.outline,
            map_outline_outline]
        | _ => rfl
      | object members key =>
        cases token with
        | comma | closeBrace =>
          simp only [outline, step?, closeObject, Option.map_some, List.map_cons, Frame.outline,
            map_outline_outline]
        | _ => rfl

/-- States with one outline take the same tokens. -/
theorem step?_of_outline (same : reading'.outline = reading.outline)
    (stepped : reading.step? token = some next) :
    ∃ next', reading'.step? token = some next' ∧ next'.outline = next.outline := by
  have outlines : (reading'.step? token).map outline = some next.outline := by
    rw [← step?_outline, same, step?_outline, stepped]
    rfl
  exact Option.map_eq_some_iff.mp outlines

theorem finish?_of_outline (same : reading'.outline = reading.outline)
    (finished : reading.finish? = some value) : ∃ value', reading'.finish? = some value' := by
  cases reading with
  | complete value stack =>
    cases stack with
    | nil =>
      cases reading' with
      | complete value' stack' =>
        cases stack' with
        | nil => exact ⟨value', rfl⟩
        | cons => simp [outline] at same
      | _ => simp [outline] at same
    | cons => contradiction
  | _ => contradiction

end Reading

namespace Strict
open Reading

variable {text rest : List Char} {reading reading' after : Reading} {stack : List Frame}
variable {value result : Value}

theorem readToken_string {denoted : List Char} (read : readString text = .ok (denoted, rest)) :
    readToken ('"' :: text) = some (.text (.ofList denoted), rest) := by
  have relaxed := readString_relaxed read
  simp [readToken, relaxed]

/-- What follows a complete value closes it. -/
def Ends (after : Reading) (rest : List Char) : Prop :=
  ∀ value stack, after = .complete value stack → Closes rest

/-- The relaxed reader takes the token that the text starts with, to a state that differs from `after` in
values alone. -/
def Follows (step? : Token → Option Reading) (text : List Char) (after : Reading) (rest : List Char) :
    Prop :=
  ∃ token next, readToken text = some (token, rest) ∧ step? token = some next ∧
    next.outline = after.outline

theorem name_follows {first : Char} {letters : List Char} {name : String}
    (word : ∀ {rest}, Closes rest → readToken (first :: (letters ++ rest)) = some (.word name true, rest))
    (literal : literal? name = some value)
    (read : (readName letters text).map (.complete value stack, ·) = .ok (after, rest))
    (ends : Ends after rest) : Follows (begin? stack) (first :: text) after rest := by
  obtain ⟨left, named, equal⟩ := map_eq_ok.mp read
  obtain ⟨rfl, rfl⟩ := Prod.mk.inj equal
  have begun : begin? stack (.word name true) = some (.complete value stack) := by
    rw [begin?, literal]
    rfl
  rw [readName_eq named]
  exact ⟨_, _, word (ends _ _ rfl), begun, rfl⟩

theorem number_follows {first : Char} {spelled : List Char} {negative : Bool}
    (start : first.isDigit = true ∨ first = '-')
    (signed : Document.readNumber (first :: spelled) = readMagnitude negative text)
    (read : (readNumber negative text).map (fun (value, rest) => (.complete value stack, rest)) =
      .ok (after, rest))
    (ends : Ends after rest) : Follows (begin? stack) (first :: spelled) after rest := by
  obtain ⟨⟨value, left⟩, number, equal⟩ := map_eq_ok.mp read
  obtain ⟨rfl, rfl⟩ := Prod.mk.inj equal
  obtain ⟨relaxed, magnitude⟩ := readNumber_relaxed number (ends _ _ rfl)
  exact ⟨.number relaxed, _, readToken_number start (signed.trans magnitude), rfl, rfl⟩

theorem begin_follows (read : begin stack text = .ok (after, rest)) (ends : Ends after rest) :
    Follows (begin? stack) text after rest := by
  unfold begin at read
  split at read
  case h_1 => contradiction
  case h_2 | h_3 =>
    split at read
    case isTrue =>
      obtain ⟨rfl, rfl⟩ := Prod.mk.inj (Except.ok.inj read)
      exact ⟨_, _, rfl, rfl, rfl⟩
    case isFalse => contradiction
  case h_4 =>
    obtain ⟨⟨denoted, left⟩, string, equal⟩ := map_eq_ok.mp read
    obtain ⟨rfl, rfl⟩ := Prod.mk.inj equal
    exact ⟨_, _, readToken_string string, rfl, rfl⟩
  case h_5 => exact name_follows (fun closes => (readToken_literals closes).1) rfl read ends
  case h_6 => exact name_follows (fun closes => (readToken_literals closes).2.1) rfl read ends
  case h_7 => exact name_follows (fun closes => (readToken_literals closes).2.2) rfl read ends
  case h_8 => exact number_follows (.inr rfl) (readNumber_negative _) read ends
  case h_9 =>
    split at read
    case isTrue digit => exact number_follows (.inl digit) (readNumber_of_isDigit _ digit) read ends
    case isFalse => contradiction

/-- An item or the end of an array is due: where a value begins, it is the item. -/
theorem follows_item (items : List Value)
    (follows : Follows (begin? (.array items :: stack)) text after rest) :
    Follows (step? (.awaitItem items stack)) text after rest := by
  obtain ⟨token, next, read, begun, same⟩ := follows
  have opening : token ≠ .closeBracket := by
    rintro rfl
    contradiction
  exact ⟨token, next, read, (awaits_item items stack token opening).trans begun, same⟩

/-- Each step of the strict reader is one token of the relaxed one. The strict reader refuses more: a comma
before a closing bracket, keys that are no strings, and depth. -/
theorem step_follows (read : step reading text = .ok (after, rest)) (ends : Ends after rest) :
    Follows reading.step? text after rest := by
  unfold step at read
  split at read
  case h_1 => exact begin_follows read ends
  case h_2 items text =>
    split at read
    case h_1 =>
      obtain ⟨rfl, rfl⟩ := Prod.mk.inj (Except.ok.inj read)
      exact ⟨_, _, rfl, rfl, rfl⟩
    case h_2 => contradiction
    case h_3 => contradiction
    case h_4 => exact follows_item _ (begin_follows read ends)
  case h_3 members text =>
    split at read
    case h_1 =>
      obtain ⟨rfl, rfl⟩ := Prod.mk.inj (Except.ok.inj read)
      exact ⟨_, _, rfl, rfl, rfl⟩
    case h_5 =>
      obtain ⟨⟨denoted, left⟩, string, equal⟩ := map_eq_ok.mp read
      obtain ⟨rfl, rfl⟩ := Prod.mk.inj equal
      exact ⟨_, _, readToken_string string, rfl, rfl⟩
    all_goals contradiction
  case h_4 =>
    split at read
    case h_1 =>
      obtain ⟨rfl, rfl⟩ := Prod.mk.inj (Except.ok.inj read)
      exact ⟨_, _, rfl, rfl, rfl⟩
    all_goals contradiction
  case h_5 | h_6 =>
    split at read
    case h_1 | h_2 =>
      obtain ⟨rfl, rfl⟩ := Prod.mk.inj (Except.ok.inj read)
      exact ⟨_, _, rfl, rfl, rfl⟩
    all_goals contradiction
  case h_7 => contradiction

theorem readFrom_ok (read : readFrom reading text = .ok value) :
    (reading.finish? = some value ∧ skipBlanks text = []) ∨
    ∃ after rest, step reading (skipBlanks text) = .ok (after, rest) ∧ readFrom after rest = .ok value := by
  rw [readFrom] at read
  split at read
  case h_1 finished empty =>
    obtain rfl := Except.ok.inj read
    exact .inl ⟨finished, List.isEmpty_iff.mp empty⟩
  case h_2 =>
    split at read
    case h_1 => contradiction
    case h_2 after rest stepped => exact .inr ⟨after, rest, stepped, read⟩

theorem mem_layoutBlanks_of_isBlank {c : Char} (blank : isBlank c = true) : c ∈ layoutBlanks := by
  simp only [isBlank, Bool.or_eq_true, beq_iff_eq] at blank
  rcases blank with ((rfl | rfl) | rfl) | rfl <;> decide

theorem tokens_skipBlanks (text : List Char) : tokens (skipBlanks text) = tokens text := by
  have blanks : ∀ c ∈ text.takeWhile isBlank, isLayoutBlank c = true :=
    fun c member => isLayoutBlank_of_mem c (mem_layoutBlanks_of_isBlank (List.mem_takeWhile_imp member))
  rw [skipBlanks, ← tokens_blank blanks, List.takeWhile_append_dropWhile]

theorem mem_closing_of_step {c : Char}
    (read : step (.complete value stack) (c :: text) = .ok (after, rest)) : c ∈ closingCharacters := by
  cases stack with
  | nil => contradiction
  | cons frame stack =>
    cases frame with
    | array items | object members key =>
      unfold step at read
      dsimp only at read
      split at read
      case h_1 equal | h_2 equal =>
        rw [(List.cons.inj equal).1]
        decide
      all_goals contradiction

/-- A strict text goes on behind a value with a blank, a comma or a closing bracket. -/
theorem closes_of_readFrom (read : readFrom (.complete value stack) text = .ok result) : Closes text := by
  cases text with
  | nil => exact closes_nil
  | cons c text =>
    refine closes_cons ?_ text
    by_cases blank : isBlank c = true
    · exact List.mem_append_right _ (mem_layoutBlanks_of_isBlank blank)
    · have kept : skipBlanks (c :: text) = c :: text := List.dropWhile_cons_of_neg blank
      rcases readFrom_ok read with ⟨_, empty⟩ | ⟨after, rest, stepped, _⟩
      · rw [kept] at empty
        contradiction
      · rw [kept] at stepped
        exact mem_closing_of_step stepped

/-- As long as strict reading goes on, the relaxed reader has come to a state with the same outline. -/
theorem readFrom_follows (read : readFrom reading text = .ok value)
    (same : reading'.outline = reading.outline) :
    ∃ spelled value', tokens text = some spelled ∧
      (spelled.foldlM step? reading').bind finish? = some value' := by
  induction length : text.length using Nat.strongRecOn generalizing reading reading' text with
  | ind n ih =>
    rcases readFrom_ok read with ⟨finished, empty⟩ | ⟨after, rest, stepped, onward⟩
    · obtain ⟨value', finished'⟩ := finish?_of_outline same finished
      refine ⟨[], value', ?_, finished'⟩
      rw [← tokens_skipBlanks, empty, tokens_nil]
    · have ends : Ends after rest := by
        rintro value stack rfl
        exact closes_of_readFrom onward
      obtain ⟨token, next, taken, step, outline⟩ := step_follows stepped ends
      obtain ⟨next', step', outline'⟩ := step?_of_outline same step
      have shorter : rest.length < n :=
        length ▸ (step_length stepped).trans_le (skipBlanks_length text)
      obtain ⟨spelled, value', cut, folded⟩ := ih _ shorter onward (outline'.trans outline) rfl
      refine ⟨token :: spelled, value', ?_, ?_⟩
      · rw [← tokens_skipBlanks, tokens_token taken, cut]
        rfl
      · rw [foldlM_step step']
        exact folded

/-- A text that is read strictly is read with the liberties of hand-edited text. -/
theorem readRelaxed_of_read {text : List Char} (read : Strict.read text = .ok value) :
    ∃ relaxed, readRelaxed text = some relaxed := by
  obtain ⟨spelled, relaxed, cut, folded⟩ := readFrom_follows read rfl
  exact ⟨relaxed, (congrArg (·.bind ofTokens?) cut).trans folded⟩

end Strict

end PermissionRules.Document

namespace PermissionRules.Settings
open Document

/-- The strict reader supplies no document, only the reason and the position of a fault: it accepts no text
that is refused otherwise. -/
theorem parseDocument_relaxed (text : String) :
    (∀ value, Strict.read text.toList = .ok value → ∃ relaxed, readRelaxed text.toList = some relaxed) ∧
    (∀ value, parseDocument text = .ok value ↔ readRelaxed text.toList = some value) ∧
    (∀ error, parseDocument text = .error error ↔
      readRelaxed text.toList = none ∧ ∃ fault, Strict.read text.toList = .error fault ∧
        error = .document ⟨fault.reason, fault.position text.toList⟩) := by
  refine ⟨fun value => Strict.readRelaxed_of_read, ?_⟩
  cases relaxed : readRelaxed text.toList with
  | some value =>
    have parsed : parseDocument text = .ok value := by
      rw [parseDocument, parse, relaxed]
      rfl
    rw [parsed]
    constructor
    · intro other
      rw [Except.ok.injEq, Option.some.injEq]
    · intro error
      constructor
      · intro refused
        contradiction
      · rintro ⟨refused, _⟩
        contradiction
  | none =>
    cases strict : Strict.read text.toList with
    | ok value =>
      obtain ⟨read, accepted⟩ := Strict.readRelaxed_of_read strict
      rw [relaxed] at accepted
      contradiction
    | error fault =>
      have refused :
          parseDocument text = .error (.document ⟨fault.reason, fault.position text.toList⟩) := by
        rw [parseDocument, parse, relaxed, readStrict, strict]
        rfl
      rw [refused]
      constructor
      · intro value
        constructor
        · intro read
          contradiction
        · intro read
          contradiction
      · intro error
        constructor
        · intro equal
          exact ⟨rfl, fault, rfl, (Except.error.inj equal).symm⟩
        · rintro ⟨_, held, same, rfl⟩
          rw [Except.error.inj same]

end PermissionRules.Settings
