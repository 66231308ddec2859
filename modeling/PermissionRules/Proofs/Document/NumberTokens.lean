import PermissionRules.Document.Printer
import PermissionRules.Proofs.Decimal.Notation
import PermissionRules.Proofs.Document.Layout
import PermissionRules.Proofs.Double.Shortest

/-! Written numbers are single tokens. The text of a number is one run of the characters of numerals,
and what follows it in a written document is none of them. -/
namespace PermissionRules.Document
open Text Decimal

/-- What may follow a number or a word: nothing, or a character that continues neither of them. -/
def Closes (following : List Char) : Prop :=
  ∀ c ∈ following.head?, isNumeralRun c = false ∧ isIdentifierRest c = false ∧ c ≠ '\\'

theorem closes_nil : Closes [] :=
  nofun

/-- A comma, a colon, a closing bracket and layout end a number and a word. -/
theorem closes_cons {c : Char} (closing : c ∈ closingCharacters) (rest : List Char) :
    Closes (c :: rest) := by
  have outside : ∀ c ∈ closingCharacters, isNumeralRun c = false ∧ c ≠ '\\' :=
    forall_mem_of_all (by decide)
  rintro c ⟨⟩
  exact ⟨(outside c closing).1, isIdentifierRest_closing c closing, (outside c closing).2⟩

theorem isNumeralRun_of_isDigit {c : Char} (digit : c.isDigit = true) : isNumeralRun c = true := by
  simp [isNumeralRun, digit]

theorem Closes.isNumeralRun {following : List Char} (closes : Closes following) :
    ∀ c ∈ following.head?, isNumeralRun c = false :=
  fun c head => (closes c head).1

theorem isNumeralRun_positional {digits : List Char} (digit : ∀ c ∈ digits, c.isDigit = true)
    (leading : Int) : ∀ c ∈ positional digits leading, isNumeralRun c = true := by
  have zero : isNumeralRun '0' = true := rfl
  have point : isNumeralRun '.' = true := rfl
  have inside : ∀ c ∈ digits, isNumeralRun c = true :=
    fun c member => isNumeralRun_of_isDigit (digit c member)
  intro c member
  cases leading with
  | ofNat leading =>
    simp only [positional, List.append_assoc, List.mem_append, List.mem_cons] at member
    rcases member with member | member | rfl | member
    · exact inside c (List.mem_of_mem_take member)
    · exact List.eq_of_mem_replicate member ▸ zero
    · exact point
    · split at member
      · exact List.mem_singleton.mp member ▸ zero
      · exact inside c (List.mem_of_mem_drop member)
  | negSucc zeros =>
    simp only [positional, List.cons_append, List.mem_cons, List.mem_append] at member
    rcases member with rfl | rfl | member | member
    · exact zero
    · exact point
    · exact List.eq_of_mem_replicate member ▸ zero
    · exact inside c member

theorem isNumeralRun_scientific {digits : List Char} (digit : ∀ c ∈ digits, c.isDigit = true)
    (leading : Int) : ∀ c ∈ scientific digits leading, isNumeralRun c = true := by
  have inside : ∀ c ∈ digits, isNumeralRun c = true :=
    fun c member => isNumeralRun_of_isDigit (digit c member)
  have exponent : ∀ c ∈ 'e' :: signedDigits leading, isNumeralRun c = true := by
    intro c member
    cases leading with
    | ofNat n | negSucc n =>
      simp only [signedDigits, List.mem_cons] at member
      rcases member with rfl | rfl | member
      · rfl
      · rfl
      · exact isNumeralRun_of_isDigit (isDigit_of_mem_toDigits member)
  intro c member
  simp only [scientific, List.mem_append] at member
  rcases member with (member | member) | member
  · exact inside c (List.mem_of_mem_take member)
  · split at member
    · contradiction
    · rcases List.mem_cons.mp member with rfl | member
      · rfl
      · exact inside c (List.mem_of_mem_drop member)
  · exact exponent c member

theorem isNumeralRun_write (d : Decimal) : ∀ c ∈ d.write, isNumeralRun c = true := by
  by_cases zero : d.digits = 0
  · rw [write, if_pos zero]
    exact forall_mem_of_all (by decide)
  · obtain ⟨first, rest, zeros, kept, _, digit, _⟩ := significant_toDigits zero
    simp only [write, if_neg zero, kept]
    split
    · exact isNumeralRun_positional digit _
    · exact isNumeralRun_scientific digit _

/-- The text of a decimal starts with a digit, and with a zero only before the point. -/
theorem write_cons (d : Decimal) : ∃ first rest, d.write = first :: rest ∧
    first.isDigit = true ∧ (first = '0' → ∃ places, rest = '.' :: places) := by
  by_cases zero : d.digits = 0
  · exact ⟨'0', ['.', '0'], by rw [write, if_pos zero], rfl, fun _ => ⟨['0'], rfl⟩⟩
  · obtain ⟨first, rest, zeros, kept, nonzero, digit, _⟩ := significant_toDigits zero
    have firstDigit := digit first List.mem_cons_self
    simp only [write, if_neg zero, kept]
    split
    · generalize d.exponent + (Nat.toDigits 10 d.digits).length - 1 = leading
      cases leading with
      | ofNat leading =>
        exact ⟨first, _, rfl, firstDigit, fun equal => absurd equal nonzero⟩
      | negSucc zeros => exact ⟨'0', _, rfl, rfl, fun _ => ⟨_, rfl⟩⟩
    · exact ⟨first, _, rfl, firstDigit, fun equal => absurd equal nonzero⟩

variable {text following : List Char}

theorem readDecimal_run {numeral : Numeral} (negative : Bool)
    (run : ∀ c ∈ text, isNumeralRun c = true) (closes : Closes following)
    (read : Numeral.ofText? text = some numeral) :
    readDecimal negative (text ++ following) = some (numeral.value negative, following) := by
  rw [readDecimal, takeWhile_run run closes.isNumeralRun, dropWhile_run run closes.isNumeralRun, read]
  rfl

/-- A numeral with a zero at its start has a point or an exponent after it. -/
theorem readMagnitude_run {first : Char} {rest : List Char} {numeral : Numeral} (negative : Bool)
    (digit : first.isDigit = true)
    (after : first = '0' → ∃ mark places, rest = mark :: places ∧ mark ∈ ['.', 'e', 'E'])
    (run : ∀ c ∈ first :: rest, isNumeralRun c = true) (closes : Closes following)
    (read : Numeral.ofText? (first :: rest) = some numeral) :
    readMagnitude negative (first :: rest ++ following) =
      some (numeral.value negative, following) := by
  have decimal := readDecimal_run negative run closes read
  by_cases zero : first = '0'
  · obtain ⟨mark, places, rfl, mark'⟩ := after zero
    subst first
    simp only [List.mem_cons, List.not_mem_nil, or_false] at mark'
    rcases mark' with rfl | rfl | rfl <;> exact decimal
  · rw [List.cons_append] at decimal ⊢
    unfold readMagnitude
    split
    case h_1 => contradiction
    case h_2 equal => exact absurd (List.cons.inj equal).1 zero
    case h_3 equal =>
      obtain ⟨rfl, rfl⟩ := List.cons.inj equal
      simpa only [digit, Bool.true_or, if_true] using decimal

theorem readMagnitude_write {d : Decimal} {code : Nat} (negative : Bool) (closes : Closes following)
    (value : d.code? = some code) : readMagnitude negative (d.write ++ following) =
      some (.double ⟨negative, code⟩, following) := by
  obtain ⟨numeral, read, fractional, same⟩ := write_spells d
  obtain ⟨first, rest, start, digit, point⟩ := write_cons d
  have run := isNumeralRun_write d
  rw [start] at read run ⊢
  have after : first = '0' → ∃ mark places, rest = mark :: places ∧ mark ∈ ['.', 'e', 'E'] := by
    intro zero
    obtain ⟨places, rest'⟩ := point zero
    exact ⟨'.', places, rest', List.mem_cons_self⟩
  rw [readMagnitude_run negative digit after run closes read, Numeral.value, fractional, doubleValue,
    same, value]
  rfl

/-- A zero without a point or an exponent is an integer, whatever its sign. -/
theorem readMagnitude_zero (negative : Bool) (closes : Closes following) :
    readMagnitude negative ('0' :: following) = some (.integer 0, following) := by
  cases following with
  | nil => rfl
  | cons c rest =>
    obtain ⟨numeral, word, _⟩ := closes c rfl
    simp only [isNumeralRun, Bool.or_eq_false_iff, beq_eq_false_iff_ne] at numeral
    obtain ⟨⟨⟨⟨⟨digit, _⟩, _⟩, point⟩, e⟩, e'⟩ := numeral
    have hexadecimal : c ≠ 'x' ∧ c ≠ 'X' := by
      have inside : isIdentifierRest 'x' = true ∧ isIdentifierRest 'X' = true := by decide +kernel
      constructor
      · rintro rfl
        exact absurd (inside.1.symm.trans word) nofun
      · rintro rfl
        exact absurd (inside.2.symm.trans word) nofun
    simp [readMagnitude, hexadecimal, digit, point, e, e']

theorem readMagnitude_natural (negative : Bool) (n : Nat) (closes : Closes following) :
    readMagnitude negative (Nat.toDigits 10 n ++ following) =
      some (integerValue negative n, following) := by
  by_cases zero : n = 0
  · subst n
    have integer : integerValue negative 0 = .integer 0 := by
      cases negative <;> rfl
    rw [Nat.toDigits_zero, integer, List.singleton_append]
    exact readMagnitude_zero negative closes
  · obtain ⟨first, rest, digits, digit, nonzero⟩ := toDigits_cons zero
    have digits' : ∀ c ∈ first :: rest, c.isDigit = true :=
      fun c member => isDigit_of_mem_toDigits (digits ▸ member)
    have read := ofText?_whole digits' (List.cons_ne_nil _ _)
    rw [digits, readMagnitude_run negative digit (fun equal => absurd equal nonzero)
      (fun c member => isNumeralRun_of_isDigit (digits' c member)) closes read, Numeral.value,
      if_pos rfl, ← digits, naturalOf_toDigits]

theorem readToken_number {first : Char} {rest left : List Char} {value : Value}
    (start : first.isDigit = true ∨ first = '-')
    (read : readNumber (first :: rest) = some (value, left)) :
    readToken (first :: rest) = some (.number value, left) := by
  have signed : (first == '+' || first == '-' || first == '.' || first.isDigit) = true := by
    rcases start with digit | rfl
    · simp [digit]
    · rfl
  have unquoted : (first == '"' || first == '\x27') = false := by
    rcases start with digit | rfl
    · by_contra quote
      simp only [Bool.not_eq_false, Bool.or_eq_true, beq_iff_eq] at quote
      rcases quote with rfl | rfl <;> contradiction
    · rfl
  unfold readToken
  split
  case h_1 => contradiction
  case h_8 =>
    rename_i equal
    obtain ⟨rfl, rfl⟩ := List.cons.inj equal
    simp only [unquoted, signed, Bool.false_eq_true, if_false, if_true, read, Option.map_some]
  all_goals
    rename_i equal
    obtain ⟨rfl, rfl⟩ := List.cons.inj equal
    simp at start

theorem readNumber_negative (text : List Char) :
    readNumber ('-' :: text) = readMagnitude true text :=
  rfl

theorem readNumber_of_isDigit {first : Char} (rest : List Char) (digit : first.isDigit = true) :
    readNumber (first :: rest) = readMagnitude false (first :: rest) := by
  unfold readNumber
  split
  case h_3 => rfl
  all_goals
    rename_i equal
    obtain ⟨rfl, rfl⟩ := List.cons.inj equal
    simp at digit

theorem integerValue_natural {n : Nat} (inRange : Value.IntegerInRange n) :
    integerValue false n = .integer n := by
  simp only [integerValue, Bool.false_eq_true, if_false, if_pos inRange]

theorem integerValue_negative {n : Nat} (inRange : Value.IntegerInRange (-n)) :
    integerValue true n = .integer (-n) := by
  simp only [integerValue, if_true, if_pos inRange]

theorem readToken_integer {n : Int} (inRange : Value.IntegerInRange n) (closes : Closes following) :
    readToken (writeInteger n ++ following) = some (.number (.integer n), following) := by
  cases n with
  | ofNat n =>
    have read := readMagnitude_natural false n closes
    rw [integerValue_natural inRange] at read
    cases digits : Nat.toDigits 10 n with
    | nil => exact absurd digits Nat.toDigits_ne_nil
    | cons first rest =>
      have digit : first.isDigit = true :=
        isDigit_of_mem_toDigits (n := n) (digits ▸ List.mem_cons_self)
      rw [digits, List.cons_append, ← readNumber_of_isDigit _ digit] at read
      rw [writeInteger, digits, List.cons_append]
      exact readToken_number (.inl digit) read
  | negSucc n =>
    have read := readMagnitude_natural true (n + 1) closes
    rw [Int.negSucc_eq] at inRange ⊢
    rw [integerValue_negative inRange, ← readNumber_negative] at read
    exact readToken_number (.inr rfl) read

/-- A finite double is read back from its text, with the sign of a zero. -/
theorem readToken_double {x : Double} (finite : x.IsFinite) (closes : Closes following) :
    readToken (writeDouble x ++ following) = some (.number (.double x), following) := by
  obtain ⟨negative, code⟩ := x
  have read := readMagnitude_write negative closes (Double.code?_shortest finite)
  cases negative with
  | true =>
    rw [← readNumber_negative] at read
    exact readToken_number (.inr rfl) read
  | false =>
    obtain ⟨first, rest, start, digit, _⟩ := write_cons (Double.shortest code)
    rw [start, List.cons_append, ← readNumber_of_isDigit _ digit] at read
    simp only [writeDouble, start]
    exact readToken_number (.inl digit) read

end PermissionRules.Document
