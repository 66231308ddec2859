import PermissionRules.Document.Strict
import PermissionRules.Proofs.Document.TextTokens

/-! Tokens of strict text. Strings have the same extent and content for both readers; names and numbers have
the same extent where a strict text can go on, although the value of a number may differ. -/
namespace PermissionRules.Document.Strict
open Text Decimal

variable {text rest : List Char}

theorem readHex_of_readUnit {unit : Nat} (read : readUnit text = .ok (unit, rest)) :
    readHex 4 text = some (unit, rest) := by
  unfold readUnit at read
  split at read
  case isTrue => contradiction
  case isFalse =>
    split at read
    case h_1 hex => rw [hex, Except.ok.inj read]
    case h_2 => contradiction

theorem readUnicodeEscape_relaxed {c : Char} (read : readUnicodeEscape text = .ok (c, rest)) :
    Document.readUnicodeEscape text = some (c, rest) := by
  unfold readUnicodeEscape at read
  unfold Document.readUnicodeEscape
  cases first : readUnit text with
  | error fault =>
    rw [first] at read
    contradiction
  | ok found =>
    obtain ⟨unit, after⟩ := found
    rw [readHex_of_readUnit first]
    simp only [first] at read ⊢
    split at read
    case isTrue lead =>
      rw [if_pos lead]
      split at read
      case h_1 second =>
        unfold readTrail at read
        cases pair : readUnit second with
        | error fault =>
          rw [pair] at read
          contradiction
        | ok found =>
          obtain ⟨trail, after⟩ := found
          simp only [pair] at read
          simp only [readHex_of_readUnit pair]
          split at read
          case isTrue isTrail => rw [if_pos isTrail, Except.ok.inj read]
          case isFalse => contradiction
      all_goals contradiction
    case isFalse lead =>
      rw [if_neg lead]
      split at read
      case isTrue => contradiction
      case isFalse isTrail => rw [if_neg isTrail, Except.ok.inj read]

theorem readEscape_relaxed {c : Char} (read : readEscape text = .ok (c, rest)) :
    Document.readEscape text = some ([c], rest) := by
  unfold readEscape at read
  split at read
  case h_1 => contradiction
  case h_10 =>
    rw [Document.readEscape, readUnicodeEscape_relaxed read]
    rfl
  case h_11 => contradiction
  all_goals
    obtain ⟨rfl, rfl⟩ := Prod.mk.inj (Except.ok.inj read)
    rfl

theorem readString_relaxed {denoted : List Char} (read : readString text = .ok (denoted, rest)) :
    Document.readString '"' text = some (denoted, rest) := by
  fun_induction readString text generalizing denoted with
  | case1 => contradiction
  | case2 after =>
    obtain ⟨rfl, rfl⟩ := Prod.mk.inj (Except.ok.inj read)
    rw [Document.readString.eq_3 _ _ _ (by decide)]
    rfl
  | case3 escape fault => contradiction
  | case4 escape c after unescaped ih =>
    obtain ⟨⟨inner, left⟩, inside, equal⟩ := map_eq_ok.mp read
    obtain ⟨rfl, rfl⟩ := Prod.mk.inj equal
    exact readString_backslash (readEscape_relaxed unescaped) (ih inside)
  | case5 c after => contradiction
  | case6 c after quote backslash raw ih =>
    obtain ⟨⟨inner, left⟩, inside, equal⟩ := map_eq_ok.mp read
    obtain ⟨rfl, rfl⟩ := Prod.mk.inj equal
    have break' : c ≠ '\n' ∧ c ≠ '\r' := by
      constructor
      · rintro rfl
        exact raw (by decide)
      · rintro rfl
        exact raw (by decide)
    exact readString_raw quote ⟨backslash, break'⟩ (ih inside)

theorem readName_eq {letters : List Char} (read : readName letters text = .ok rest) :
    text = letters ++ rest := by
  induction letters generalizing text with
  | nil => exact Except.ok.inj read
  | cons letter letters ih =>
    cases text with
    | nil => contradiction
    | cons c text =>
      rw [readName] at read
      split at read
      case isTrue same => rw [same, ih read, List.cons_append]
      case isFalse => contradiction

/-- A text starts with digits. -/
structure Digits (text digits rest : List Char) : Prop where
  split : text = digits ++ rest
  nonempty : digits ≠ []
  digit : ∀ c ∈ digits, c.isDigit = true

theorem digits_takeWhile (nonempty : text.takeWhile Char.isDigit ≠ []) :
    Digits text (text.takeWhile Char.isDigit) (text.dropWhile Char.isDigit) where
  split := List.takeWhile_append_dropWhile.symm
  nonempty := nonempty
  digit := fun _ member => List.mem_takeWhile_imp member

theorem readWhole_digits {whole : List Char} (read : readWhole text = .ok (whole, rest)) :
    Digits text whole rest ∧ (whole.head? = some '0' → whole = ['0']) := by
  unfold readWhole at read
  split at read
  case h_1 => contradiction
  case h_2 after =>
    split at read
    case isTrue => contradiction
    case isFalse =>
      obtain ⟨rfl, rfl⟩ := Prod.mk.inj (Except.ok.inj read)
      exact ⟨⟨rfl, List.cons_ne_nil _ _, List.forall_mem_singleton.mpr rfl⟩, fun _ => rfl⟩
  case h_3 c after different =>
    split at read
    case isTrue digit =>
      obtain ⟨rfl, rfl⟩ := Prod.mk.inj (Except.ok.inj read)
      refine ⟨⟨?_, List.cons_ne_nil _ _, ?_⟩, ?_⟩
      · rw [List.cons_append, List.takeWhile_append_dropWhile]
      · exact List.forall_mem_cons.mpr ⟨digit, fun _ member => List.mem_takeWhile_imp member⟩
      · intro zero
        exact absurd (Option.some.inj zero) different
    case isFalse => contradiction

/-- The text of a fraction with its point, or nothing. -/
inductive SpellsFraction : Option (List Char) → List Char → Prop where
  | absent : SpellsFraction none []
  | present {digits} : (∀ c ∈ digits, c.isDigit = true) → SpellsFraction (some digits) ('.' :: digits)

theorem readFraction_spells {fraction : Option (List Char)}
    (read : readFraction text = .ok (fraction, rest)) :
    ∃ spelled, text = spelled ++ rest ∧ SpellsFraction fraction spelled := by
  unfold readFraction at read
  split at read
  case h_1 places =>
    split at read
    case h_1 => contradiction
    case h_2 => contradiction
    case h_3 digits left nonempty =>
      obtain ⟨rfl, rfl⟩ := Prod.mk.inj (Except.ok.inj read)
      refine ⟨'.' :: places.takeWhile Char.isDigit, ?_, ?_⟩
      · rw [List.cons_append, List.takeWhile_append_dropWhile]
      · exact .present fun _ member => List.mem_takeWhile_imp member
  case h_2 =>
    obtain ⟨rfl, rfl⟩ := Prod.mk.inj (Except.ok.inj read)
    exact ⟨[], rfl, .absent⟩

/-- The text of an exponent with its mark, or nothing. -/
inductive SpellsExponent : Option Int → List Char → Prop where
  | absent : SpellsExponent none []
  | present {mark places exponent} : mark ∈ ['e', 'E'] →
      Numeral.exponent? (mark :: places) = some exponent →
      (∀ c ∈ places, isNumeralRun c = true) → SpellsExponent (some exponent) (mark :: places)

theorem readExponentDigits_spells {negative nonzero : Bool} {exponent : Option Int}
    (read : readExponentDigits negative nonzero text = .ok (exponent, rest)) :
    ∃ digits value, Digits text digits rest ∧ exponent = some value ∧
      Numeral.signedExponent? negative digits = some value := by
  unfold readExponentDigits at read
  split at read
  case h_1 =>
    split at read <;> contradiction
  case h_2 nonempty =>
    have digits := digits_takeWhile nonempty
    have empty : (text.takeWhile Char.isDigit).isEmpty = false :=
      List.isEmpty_eq_false_iff.mpr nonempty
    have all : (text.takeWhile Char.isDigit).all Char.isDigit = true :=
      List.all_eq_true.mpr digits.digit
    extract_lets value at read
    have signed : Numeral.signedExponent? negative (text.takeWhile Char.isDigit) =
        some (if negative then -(value : Int) else value) := by
      rw [Numeral.signedExponent?, empty, all]
      rfl
    cases negative with
    | true =>
      obtain ⟨rfl, rfl⟩ := Prod.mk.inj (Except.ok.inj read)
      exact ⟨_, _, digits, rfl, signed⟩
    | false =>
      simp only [Bool.false_eq_true, if_false] at read
      split at read
      case isTrue => contradiction
      case isFalse =>
        obtain ⟨rfl, rfl⟩ := Prod.mk.inj (Except.ok.inj read)
        exact ⟨_, _, digits, rfl, signed⟩

inductive SpellsSign : Bool → List Char → Prop where
  | none : SpellsSign false []
  | plus : SpellsSign false ['+']
  | minus : SpellsSign true ['-']

theorem exponent?_mark {mark : Char} (mark' : mark ∈ ['e', 'E']) (rest : List Char) :
    Numeral.exponent? (mark :: rest) = match rest with
      | '+' :: digits => Numeral.signedExponent? false digits
      | '-' :: digits => Numeral.signedExponent? true digits
      | digits => Numeral.signedExponent? false digits := by
  simp only [List.mem_cons, List.not_mem_nil, or_false] at mark'
  rcases mark' with rfl | rfl <;> rfl

theorem spellsExponent_digits {mark : Char} {sign digits : List Char} {exponent : Int} {negative : Bool}
    (mark' : mark ∈ ['e', 'E']) (sign' : SpellsSign negative sign) (read : Digits text digits rest)
    (value : Numeral.signedExponent? negative digits = some exponent) :
    SpellsExponent (some exponent) (mark :: (sign ++ digits)) := by
  have run : ∀ c ∈ digits, isNumeralRun c = true :=
    fun c member => isNumeralRun_of_isDigit (read.digit c member)
  cases sign' with
  | none =>
    refine .present mark' ?_ run
    rw [exponent?_mark mark', List.nil_append]
    split
    case h_1 => exact absurd (read.digit '+' List.mem_cons_self) (by decide)
    case h_2 => exact absurd (read.digit '-' List.mem_cons_self) (by decide)
    case h_3 => exact value
  | plus =>
    refine .present mark' ?_ (List.forall_mem_cons.mpr ⟨rfl, run⟩)
    rw [exponent?_mark mark']
    exact value
  | minus =>
    refine .present mark' ?_ (List.forall_mem_cons.mpr ⟨rfl, run⟩)
    rw [exponent?_mark mark']
    exact value

theorem readExponent_spells {nonzero : Bool} {exponent : Option Int}
    (read : readExponent nonzero text = .ok (exponent, rest)) :
    ∃ spelled, text = spelled ++ rest ∧ SpellsExponent exponent spelled := by
  unfold readExponent at read
  split at read
  case h_1 =>
    obtain ⟨rfl, rfl⟩ := Prod.mk.inj (Except.ok.inj read)
    exact ⟨[], rfl, .absent⟩
  case h_2 mark after =>
    split at read
    case isFalse =>
      obtain ⟨rfl, rfl⟩ := Prod.mk.inj (Except.ok.inj read)
      exact ⟨[], rfl, .absent⟩
    case isTrue isMark =>
      have mark' : mark ∈ ['e', 'E'] := by simpa using isMark
      have spelled : ∀ {negative sign after}, SpellsSign negative sign →
          readExponentDigits negative nonzero after = .ok (exponent, rest) →
          ∃ spelled, mark :: (sign ++ after) = spelled ++ rest ∧ SpellsExponent exponent spelled := by
        intro negative sign after sign' read
        obtain ⟨digits, value, run, rfl, signed⟩ := readExponentDigits_spells read
        refine ⟨_, ?_, spellsExponent_digits mark' sign' run signed⟩
        rw [run.split, List.cons_append, List.append_assoc]
      split at read
      case h_1 => exact spelled .plus read
      case h_2 => exact spelled .minus read
      case h_3 => exact spelled .none read

variable {whole : List Char} {fraction : Option (List Char)} {exponent : Option Int}
variable {places power : List Char}

/-- The parts of a strict number make up a numeral for either reader. -/
theorem ofText?_parts (whole' : ∀ c ∈ whole, c.isDigit = true) (nonempty : whole ≠ [])
    (fraction' : SpellsFraction fraction places) (exponent' : SpellsExponent exponent power) :
    Numeral.ofText? (whole ++ (places ++ power)) = some ⟨whole, fraction.getD [], exponent.getD 0,
      fraction.isNone && exponent.isNone⟩ := by
  have stop : ∀ c ∈ power.head?, c.isDigit = false := by
    cases exponent' with
    | absent => exact nofun
    | present mark' =>
      have other : ∀ c ∈ ['e', 'E'], c.isDigit = false := forall_mem_of_all (by decide)
      rintro c ⟨⟩
      exact other _ mark'
  have read : Numeral.exponent? power = some (exponent.getD 0) := by
    cases exponent' with
    | absent => rfl
    | present _ read => exact read
  cases fraction' with
  | present digits => exact ofText?_point whole' digits nonempty stop read
  | absent =>
    cases exponent' with
    | absent =>
      rw [List.append_nil, List.append_nil]
      exact ofText?_whole whole' nonempty
    | present mark' read => exact ofText?_exponent whole' nonempty mark' read

theorem isNumeralRun_parts (whole' : ∀ c ∈ whole, c.isDigit = true)
    (fraction' : SpellsFraction fraction places) (exponent' : SpellsExponent exponent power) :
    ∀ c ∈ whole ++ (places ++ power), isNumeralRun c = true := by
  have digits : ∀ {digits : List Char}, (∀ c ∈ digits, c.isDigit = true) →
      ∀ c ∈ digits, isNumeralRun c = true :=
    fun digit c member => isNumeralRun_of_isDigit (digit c member)
  have places' : ∀ c ∈ places, isNumeralRun c = true := by
    cases fraction' with
    | absent => exact nofun
    | present digit => exact List.forall_mem_cons.mpr ⟨rfl, digits digit⟩
  have power' : ∀ c ∈ power, isNumeralRun c = true := by
    cases exponent' with
    | absent => exact nofun
    | present mark' _ run =>
      have mark : ∀ c ∈ ['e', 'E'], isNumeralRun c = true := forall_mem_of_all (by decide)
      exact List.forall_mem_cons.mpr ⟨mark _ mark', run⟩
  intro c member
  simp only [List.mem_append] at member
  rcases member with member | member | member
  · exact digits whole' c member
  · exact places' c member
  · exact power' c member

/-- What is written behind the whole digits starts with a point or with the mark of an exponent. -/
theorem parts_start (fraction' : SpellsFraction fraction places) (exponent' : SpellsExponent exponent power)
    (present : places ++ power ≠ []) :
    ∃ mark more, places ++ power = mark :: more ∧ mark ∈ ['.', 'e', 'E'] := by
  cases fraction' with
  | present => exact ⟨'.', _, rfl, List.mem_cons_self⟩
  | absent =>
    cases exponent' with
    | absent => contradiction
    | present mark' => exact ⟨_, _, rfl, List.mem_cons_of_mem '.' mark'⟩

theorem readMagnitude_parts (negative : Bool) (whole' : ∀ c ∈ whole, c.isDigit = true)
    (nonempty : whole ≠ []) (zero : whole.head? = some '0' → whole = ['0'])
    (fraction' : SpellsFraction fraction places) (exponent' : SpellsExponent exponent power)
    (closes : Closes rest) :
    ∃ value, readMagnitude negative (whole ++ (places ++ power) ++ rest) = some (value, rest) := by
  obtain ⟨first, tail, rfl⟩ := List.exists_cons_of_ne_nil nonempty
  by_cases bare : first = '0' ∧ places ++ power = []
  · obtain ⟨rfl, none⟩ := bare
    rw [zero rfl, none]
    exact ⟨_, readMagnitude_zero negative closes⟩
  · refine ⟨_, readMagnitude_run negative (whole' first List.mem_cons_self) ?_
      (isNumeralRun_parts whole' fraction' exponent') closes
      (ofText?_parts whole' nonempty fraction' exponent')⟩
    rintro rfl
    obtain rfl : tail = [] := (List.cons.inj (zero rfl)).2
    obtain ⟨mark, more, start, mark'⟩ := parts_start fraction' exponent' fun none => bare ⟨rfl, none⟩
    exact ⟨mark, more, start, mark'⟩

/-- A strict number that ends is read to the same place. -/
theorem readNumber_relaxed {negative : Bool} {value : Value}
    (read : readNumber negative text = .ok (value, rest)) (closes : Closes rest) :
    ∃ relaxed, readMagnitude negative text = some (relaxed, rest) := by
  unfold readNumber at read
  split at read
  case h_1 => contradiction
  case h_2 whole afterWhole wholeRead =>
    split at read
    case h_1 => contradiction
    case h_2 fraction afterFraction fractionRead =>
      extract_lets digits at read
      split at read
      case h_1 => contradiction
      case h_2 exponent afterExponent exponentRead =>
        extract_lets numeral at read
        split at read
        case h_1 => contradiction
        case h_2 =>
          obtain ⟨_, rfl⟩ := Prod.mk.inj (Except.ok.inj read)
          obtain ⟨whole', zero⟩ := readWhole_digits wholeRead
          obtain ⟨places, split, fraction'⟩ := readFraction_spells fractionRead
          obtain ⟨power, split', exponent'⟩ := readExponent_spells exponentRead
          rw [whole'.split, split, split', ← List.append_assoc places, ← List.append_assoc]
          exact readMagnitude_parts negative whole'.digit whole'.nonempty zero fraction' exponent' closes

end PermissionRules.Document.Strict
