import PermissionRules.Document.Parse
import PermissionRules.Proofs.Document.Value
import PermissionRules.Proofs.Ordered

/-! Whatever is read from a text is well-formed. Numbers are put in range when they are read, and the
members of an object are put under distinct keys when it is closed; both readers share the states. -/
namespace PermissionRules.Document
open Value

theorem doubleValue_wellFormed (negative : Bool) (decimal : Decimal) :
    (doubleValue negative decimal).WellFormed := by
  unfold doubleValue
  split
  case h_1 code read =>
    simp only [Decimal.code?, Option.ite_none_right_eq_some, Option.some.injEq] at read
    exact read.2 ▸ read.1
  case h_2 => trivial

theorem integerValue_wellFormed (negative : Bool) (magnitude : Nat) :
    (integerValue negative magnitude).WellFormed := by
  unfold integerValue
  extract_lets n
  split
  case isTrue inRange => exact inRange
  case isFalse => exact doubleValue_wellFormed negative _

theorem Numeral.value_wellFormed (negative : Bool) (numeral : Numeral) :
    (numeral.value negative).WellFormed := by
  unfold Numeral.value
  split
  · exact integerValue_wellFormed negative _
  · exact doubleValue_wellFormed negative _

theorem Numeral.clippedValue?_wellFormed {negative : Bool} {numeral : Numeral} {value : Value}
    (read : numeral.clippedValue? negative = some value) : value.WellFormed := by
  unfold Numeral.clippedValue? at read
  extract_lets magnitude signed at read
  split at read
  case isTrue integer =>
    simp only [Bool.and_eq_true, decide_eq_true_eq] at integer
    exact Option.some.inj read ▸ integer.1.2
  case isFalse =>
    split at read
    case isTrue finite => exact Option.some.inj read ▸ finite
    case isFalse => contradiction

variable {negative : Bool} {text rest : List Char} {value : Value}

theorem readDecimal_wellFormed (read : readDecimal negative text = some (value, rest)) :
    value.WellFormed := by
  simp only [readDecimal, Option.map_eq_some_iff, Prod.mk.injEq] at read
  obtain ⟨numeral, _, rfl, _⟩ := read
  exact numeral.value_wellFormed negative

theorem readHexadecimal_wellFormed (read : readHexadecimal negative text = some (value, rest)) :
    value.WellFormed := by
  simp only [readHexadecimal, hexValue?, Option.map_eq_some_iff, Option.ite_none_left_eq_some,
    Prod.mk.injEq] at read
  obtain ⟨_, ⟨_, integer⟩, rfl, _⟩ := read
  exact Option.some.inj integer ▸ integerValue_wellFormed negative _

theorem readNonFinite_wellFormed (read : readNonFinite text = some (value, rest)) :
    value.WellFormed := by
  unfold readNonFinite at read
  split at read
  · simp only [Option.some.injEq, Prod.mk.injEq] at read
    exact read.1 ▸ trivial
  · simp only [Option.some.injEq, Prod.mk.injEq] at read
    exact read.1 ▸ trivial
  · contradiction

theorem readMagnitude_wellFormed (read : readMagnitude negative text = some (value, rest)) :
    value.WellFormed := by
  have zero : ∀ after, some (Value.integer 0, after) = some (value, rest) → value.WellFormed := by
    intro after equal
    have inRange : IntegerInRange 0 := by decide
    exact (Prod.mk.inj (Option.some.inj equal)).1 ▸ inRange
  unfold readMagnitude at read
  split at read
  · contradiction
  · split at read
    · exact zero _ read
    · split at read
      · exact readHexadecimal_wellFormed read
      · split at read
        · contradiction
        · split at read
          · exact readDecimal_wellFormed read
          · exact zero _ read
  · split at read
    · exact readDecimal_wellFormed read
    · exact readNonFinite_wellFormed read

theorem readNumber_wellFormed (read : readNumber text = some (value, rest)) : value.WellFormed := by
  unfold readNumber at read
  split at read <;> exact readMagnitude_wellFormed read

/-- The value of a number is well-formed. -/
def Token.WellFormed : Token → Prop
  | .number value => value.WellFormed
  | _ => True

theorem readWord_wellFormed {token : Token} (read : readWord text = some (token, rest)) :
    token.WellFormed := by
  unfold readWord at read
  split at read
  · split at read
    · contradiction
    · simp only [Option.ite_none_right_eq_some, Option.map_eq_some_iff, Prod.mk.injEq] at read
      obtain ⟨_, _, _, rfl, _⟩ := read
      trivial
  · simp only [Option.ite_none_right_eq_some, Option.map_eq_some_iff, Prod.mk.injEq] at read
    obtain ⟨_, _, _, rfl, _⟩ := read
    trivial
  · contradiction

theorem readToken_wellFormed {token : Token} (read : readToken text = some (token, rest)) :
    token.WellFormed := by
  unfold readToken at read
  split at read
  case h_1 => contradiction
  case h_8 =>
    split at read
    · simp only [Option.map_eq_some_iff, Prod.mk.injEq] at read
      obtain ⟨_, _, rfl, _⟩ := read
      trivial
    · split at read
      · simp only [Option.map_eq_some_iff, Prod.mk.injEq] at read
        obtain ⟨number, number', rfl, _⟩ := read
        exact readNumber_wellFormed number'
      · exact readWord_wellFormed read
  all_goals
    obtain ⟨rfl, _⟩ := Prod.mk.inj (Option.some.inj read)
    trivial

theorem tokens_wellFormed {text : List Char} {read : List Token} (cut : tokens text = some read) :
    ∀ token ∈ read, token.WellFormed := by
  fun_induction tokens text generalizing read with
  | case1 text skipped => contradiction
  | case2 text skipped => exact Option.some.inj cut ▸ nofun
  | case3 text c rest skipped unread => contradiction
  | case4 text c rest skipped token after first ih =>
    obtain ⟨others, following, rfl⟩ := Option.map_eq_some_iff.mp cut
    exact List.forall_mem_cons.mpr ⟨readToken_wellFormed first, ih following⟩

/-- All values that an open container holds are well-formed. -/
def Frame.WellFormed : Frame → Prop
  | .array items => ∀ item ∈ items, item.WellFormed
  | .object members _ => ∀ member ∈ members, member.2.WellFormed

namespace Reading

/-- All values read so far are well-formed. -/
def WellFormed : Reading → Prop
  | awaitValue stack => ∀ frame ∈ stack, frame.WellFormed
  | awaitItem items stack => (∀ item ∈ items, item.WellFormed) ∧ ∀ frame ∈ stack, frame.WellFormed
  | awaitKey members stack | awaitColon members _ stack =>
    (∀ member ∈ members, member.2.WellFormed) ∧ ∀ frame ∈ stack, frame.WellFormed
  | complete value stack => value.WellFormed ∧ ∀ frame ∈ stack, frame.WellFormed

variable {stack : List Frame} {reading next : Reading} {token : Token}

theorem closeArray_wellFormed {items : List Value} (items' : ∀ item ∈ items, item.WellFormed)
    (stack' : ∀ frame ∈ stack, frame.WellFormed) : (closeArray items stack).WellFormed :=
  ⟨wellFormed_array.mpr fun item member => items' item (List.mem_reverse.mp member), stack'⟩

theorem closeObject_wellFormed {members : List (String × Value)}
    (members' : ∀ member ∈ members, member.2.WellFormed)
    (stack' : ∀ frame ∈ stack, frame.WellFormed) : (closeObject members stack).WellFormed := by
  refine ⟨wellFormed_object.mpr ⟨Ordered.nodup_keys_ofWritten _, fun member inside => ?_⟩, stack'⟩
  exact members' member (List.mem_reverse.mp (Ordered.mem_of_mem_ofWritten inside))

theorem literal?_wellFormed {name : String} {value : Value} (literal : literal? name = some value) :
    value.WellFormed := by
  unfold literal? at literal
  split at literal
  case h_6 => contradiction
  all_goals
    rw [← Option.some.inj literal]
    trivial

theorem begin?_wellFormed (stack' : ∀ frame ∈ stack, frame.WellFormed) (token' : token.WellFormed)
    (begun : begin? stack token = some next) : next.WellFormed := by
  unfold begin? at begun
  split at begun
  · exact Option.some.inj begun ▸ ⟨nofun, stack'⟩
  · exact Option.some.inj begun ▸ ⟨nofun, stack'⟩
  · exact Option.some.inj begun ▸ ⟨trivial, stack'⟩
  · exact Option.some.inj begun ▸ ⟨token', stack'⟩
  · obtain ⟨value, literal, rfl⟩ := Option.map_eq_some_iff.mp begun
    exact ⟨literal?_wellFormed literal, stack'⟩
  · contradiction

/-- Each token keeps what was read well-formed. -/
theorem step?_wellFormed (reading' : reading.WellFormed) (token' : token.WellFormed)
    (stepped : reading.step? token = some next) : next.WellFormed := by
  unfold step? at stepped
  split at stepped
  · exact begin?_wellFormed reading' token' stepped
  · exact Option.some.inj stepped ▸ closeArray_wellFormed reading'.1 reading'.2
  · refine begin?_wellFormed ?_ token' stepped
    exact List.forall_mem_cons.mpr reading'
  · exact Option.some.inj stepped ▸ closeObject_wellFormed reading'.1 reading'.2
  · exact Option.some.inj stepped ▸ reading'
  · exact Option.some.inj stepped ▸ reading'
  · exact Option.some.inj stepped ▸ List.forall_mem_cons.mpr reading'
  case h_12 => contradiction
  all_goals
    obtain ⟨value', stack'⟩ := reading'
    obtain ⟨frame', stack'⟩ := List.forall_mem_cons.mp stack'
    rw [← Option.some.inj stepped]
  case h_8 => exact ⟨List.forall_mem_cons.mpr ⟨value', frame'⟩, stack'⟩
  case h_9 => exact closeArray_wellFormed (List.forall_mem_cons.mpr ⟨value', frame'⟩) stack'
  case h_10 => exact ⟨List.forall_mem_cons.mpr ⟨value', frame'⟩, stack'⟩
  case h_11 => exact closeObject_wellFormed (List.forall_mem_cons.mpr ⟨value', frame'⟩) stack'

theorem finish?_wellFormed {value : Value} (reading' : reading.WellFormed)
    (finished : reading.finish? = some value) : value.WellFormed := by
  unfold finish? at finished
  split at finished
  · exact Option.some.inj finished ▸ reading'.1
  · contradiction

/-- A whole run of tokens keeps what was read well-formed. -/
theorem foldlM_wellFormed {tokens : List Token} (tokens' : ∀ token ∈ tokens, token.WellFormed)
    (reading' : reading.WellFormed) (read : tokens.foldlM step? reading = some next) :
    next.WellFormed := by
  induction tokens generalizing reading with
  | nil => exact Option.some.inj read ▸ reading'
  | cons token tokens ih =>
    obtain ⟨token', tokens'⟩ := List.forall_mem_cons.mp tokens'
    rw [List.foldlM_cons] at read
    obtain ⟨after, stepped, read⟩ := Option.bind_eq_some_iff.mp read
    exact ih tokens' (step?_wellFormed reading' token' stepped) read

end Reading

theorem readRelaxed_wellFormed (read : readRelaxed text = some value) : value.WellFormed := by
  obtain ⟨cut, tokens', read⟩ := Option.bind_eq_some_iff.mp read
  obtain ⟨reading, read, finished⟩ := Option.bind_eq_some_iff.mp read
  have start : Reading.start.WellFormed := nofun
  exact Reading.finish?_wellFormed
    (Reading.foldlM_wellFormed (tokens_wellFormed tokens') start read) finished

namespace Strict
open Reading
variable {stack : List Frame} {reading after : Reading}

theorem readNumber_wellFormed (read : readNumber negative text = .ok (value, rest)) :
    value.WellFormed := by
  unfold readNumber at read
  split at read
  · contradiction
  · split at read
    · contradiction
    · extract_lets digits at read
      split at read
      · contradiction
      · extract_lets numeral at read
        split at read
        · contradiction
        · rename_i clipped
          obtain ⟨rfl, _⟩ := Prod.mk.inj (Except.ok.inj read)
          exact Numeral.clippedValue?_wellFormed clipped

theorem map_wellFormed {α : Type} {result : Result α} {onward : α → Reading × List Char}
    (read : result.map onward = .ok (after, rest))
    (each : ∀ a, result = .ok a → (onward a).1.WellFormed) : after.WellFormed := by
  obtain ⟨a, held, equal⟩ := map_eq_ok.mp read
  have onward' := each a held
  rw [equal] at onward'
  exact onward'

theorem begin_wellFormed (stack' : ∀ frame ∈ stack, frame.WellFormed)
    (begun : begin stack text = .ok (after, rest)) : after.WellFormed := by
  unfold begin at begun
  split at begun
  case h_1 => contradiction
  case h_2 | h_3 =>
    split at begun
    · obtain ⟨rfl, _⟩ := Prod.mk.inj (Except.ok.inj begun)
      exact ⟨nofun, stack'⟩
    · contradiction
  case h_4 | h_5 | h_6 | h_7 =>
    exact map_wellFormed begun fun _ _ => ⟨trivial, stack'⟩
  case h_8 =>
    exact map_wellFormed begun fun _ read => ⟨readNumber_wellFormed read, stack'⟩
  case h_9 =>
    split at begun
    · exact map_wellFormed begun fun _ read => ⟨readNumber_wellFormed read, stack'⟩
    · contradiction

theorem step_wellFormed (reading' : reading.WellFormed)
    (stepped : step reading text = .ok (after, rest)) : after.WellFormed := by
  unfold step at stepped
  split at stepped
  case h_1 => exact begin_wellFormed reading' stepped
  case h_2 =>
    split at stepped
    · obtain ⟨rfl, _⟩ := Prod.mk.inj (Except.ok.inj stepped)
      exact closeArray_wellFormed nofun reading'.2
    · contradiction
    · contradiction
    · refine begin_wellFormed ?_ stepped
      exact List.forall_mem_cons.mpr reading'
  case h_3 =>
    split at stepped
    · obtain ⟨rfl, _⟩ := Prod.mk.inj (Except.ok.inj stepped)
      exact closeObject_wellFormed nofun reading'.2
    · contradiction
    · contradiction
    · contradiction
    · exact map_wellFormed stepped fun _ _ => reading'
    · contradiction
  case h_4 =>
    split at stepped
    · obtain ⟨rfl, _⟩ := Prod.mk.inj (Except.ok.inj stepped)
      exact List.forall_mem_cons.mpr reading'
    · contradiction
    · contradiction
  case h_5 =>
    obtain ⟨value', stack'⟩ := reading'
    obtain ⟨frame', stack'⟩ := List.forall_mem_cons.mp stack'
    split at stepped
    · obtain ⟨rfl, _⟩ := Prod.mk.inj (Except.ok.inj stepped)
      exact ⟨List.forall_mem_cons.mpr ⟨value', frame'⟩, stack'⟩
    · obtain ⟨rfl, _⟩ := Prod.mk.inj (Except.ok.inj stepped)
      exact closeArray_wellFormed (List.forall_mem_cons.mpr ⟨value', frame'⟩) stack'
    · contradiction
    · contradiction
  case h_6 =>
    obtain ⟨value', stack'⟩ := reading'
    obtain ⟨frame', stack'⟩ := List.forall_mem_cons.mp stack'
    split at stepped
    · obtain ⟨rfl, _⟩ := Prod.mk.inj (Except.ok.inj stepped)
      exact ⟨List.forall_mem_cons.mpr ⟨value', frame'⟩, stack'⟩
    · obtain ⟨rfl, _⟩ := Prod.mk.inj (Except.ok.inj stepped)
      exact closeObject_wellFormed (List.forall_mem_cons.mpr ⟨value', frame'⟩) stack'
    · contradiction
    · contradiction
  case h_7 => contradiction

theorem readFrom_wellFormed (reading' : reading.WellFormed) (read : readFrom reading text = .ok value) :
    value.WellFormed := by
  fun_induction readFrom reading text with
  | case1 reading text held blank finished =>
    exact Except.ok.inj read ▸ finish?_wellFormed reading' finished
  | case2 reading text fault stepped => contradiction
  | case3 reading text after rest stepped unfinished ih =>
    exact ih (step_wellFormed reading' stepped) read

theorem read_wellFormed (read : Strict.read text = .ok value) : value.WellFormed := by
  have start : Reading.start.WellFormed := nofun
  exact readFrom_wellFormed start read

end Strict

/-- Every document that is read is well-formed. -/
theorem parse_wellFormed {text : String} (parsed : parse text = .ok value) : value.WellFormed := by
  unfold parse at parsed
  split at parsed
  case h_1 read => exact Except.ok.inj parsed ▸ readRelaxed_wellFormed read
  case h_2 =>
    unfold readStrict at parsed
    cases read : Strict.read text.toList with
    | error fault =>
      rw [read] at parsed
      contradiction
    | ok value =>
      rw [read] at parsed
      exact Except.ok.inj parsed ▸ Strict.read_wellFormed read

end PermissionRules.Document
