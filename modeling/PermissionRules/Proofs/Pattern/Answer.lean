import PermissionRules.Proofs.Pattern.Grammar

/-! The answer to a pattern: the faults of its line in their order, then the form that the grammar gives
it. The answers exclude each other, so that each of them has its own condition. -/
namespace PermissionRules.Pattern
open Text

/-- The code points with the property `White_Space`. -/
def whiteSpace : List Nat :=
  [0x9, 0xa, 0xb, 0xc, 0xd, 0x20, 0x85, 0xa0, 0x1680, 0x2000, 0x2001, 0x2002, 0x2003, 0x2004, 0x2005,
    0x2006, 0x2007, 0x2008, 0x2009, 0x200a, 0x2028, 0x2029, 0x202f, 0x205f, 0x3000]

def Blank (pattern : String) : Prop :=
  ∀ c ∈ pattern.toList, c.toNat ∈ whiteSpace

def Broken (pattern : String) : Prop :=
  '\n' ∈ pattern.toList ∨ '\r' ∈ pattern.toList

instance (pattern : String) : Decidable (Broken pattern) :=
  inferInstanceAs (Decidable (_ ∨ _))

/-- A text without a fault of its line. -/
structure OneLine (pattern : String) : Prop where
  filled : ¬ Blank pattern
  unbroken : ¬ Broken pattern
  short : pattern.length ≤ 500

theorem OneLine.lineFeed_not_mem {pattern : String} (line : OneLine pattern) : '\n' ∉ pattern.toList :=
  fun member => line.unbroken (.inl member)

/-- The answer to a text. -/
inductive Answers (pattern : String) : Except Fault Form → Prop where
  | empty : Blank pattern → Answers pattern (.error .empty)
  | newline : ¬ Blank pattern → Broken pattern → Answers pattern (.error .newline)
  | tooLong : ¬ Blank pattern → ¬ Broken pattern → 500 < pattern.length →
      Answers pattern (.error .tooLong)
  | form {form} : OneLine pattern → Spells pattern form → ¬ form.Deprecated →
      Answers pattern (.ok form)
  | deprecated {form} : OneLine pattern → Spells pattern form → form.Deprecated →
      Answers pattern (.error .deprecatedColonStar)
  | invalidFormat : OneLine pattern → (∀ form, ¬ Spells pattern form) →
      Answers pattern (.error (.invalidFormat pattern))

theorem isBlank_iff {c : Char} : isBlank c = true ↔ c.toNat ∈ whiteSpace := by
  simp only [isBlank, isSpaceSeparator, isSeparator, Bool.or_eq_true, Bool.and_eq_true,
    decide_eq_true_eq, beq_iff_eq, Char.le_def, UInt32.le_iff_toNat_le, ← Char.toNat_inj,
    Char.toNat_val, Char.reduceToNat, whiteSpace, List.mem_cons, List.not_mem_nil,
    or_false]
  omega

theorem all_isBlank_iff {pattern : String} :
    pattern.toList.all isBlank = true ↔ Blank pattern := by
  simp only [List.all_eq_true, isBlank_iff, Blank]

variable {pattern : String} {form : Form}

theorem any_break_iff :
    pattern.toList.any (fun c => c == '\n' || c == '\r') = true ↔ Broken pattern := by
  simp only [List.any_eq_true, Bool.or_eq_true, beq_iff_eq, Broken]
  constructor
  · rintro ⟨c, member, rfl | rfl⟩
    · exact .inl member
    · exact .inr member
  · rintro (member | member)
    · exact ⟨_, member, .inl rfl⟩
    · exact ⟨_, member, .inr rfl⟩

theorem lineFault?_eq_none :
    lineFault? pattern.toList = none ↔ ¬ Broken pattern ∧ pattern.length ≤ 500 := by
  have long : maxLength < pattern.toList.length ↔ 500 < pattern.length := by
    rw [String.length_toList]
    rfl
  simp only [lineFault?, any_break_iff, long]
  split
  case isTrue broken => exact iff_of_false nofun fun plain => plain.1 broken
  case isFalse unbroken =>
    split
    case isTrue long => exact iff_of_false nofun fun plain => Nat.not_lt.mpr plain.2 long
    case isFalse short => exact iff_of_true rfl ⟨unbroken, Nat.not_lt.mp short⟩

theorem oneLine_iff :
    OneLine pattern ↔ ¬ Blank pattern ∧ lineFault? pattern.toList = none := by
  rw [lineFault?_eq_none]
  constructor
  · rintro ⟨filled, unbroken, short⟩
    exact ⟨filled, unbroken, short⟩
  · rintro ⟨filled, unbroken, short⟩
    exact ⟨filled, unbroken, short⟩

theorem parse_blank (blank : Blank pattern) : parse pattern = .error .empty := by
  rw [parse, if_pos (all_isBlank_iff.mpr blank)]

theorem parse_broken (filled : ¬ Blank pattern) (broken : Broken pattern) :
    parse pattern = .error .newline := by
  rw [parse, if_neg (mt all_isBlank_iff.mp filled), lineFault?, if_pos (any_break_iff.mpr broken)]

theorem parse_long (filled : ¬ Blank pattern) (unbroken : ¬ Broken pattern)
    (long : 500 < pattern.length) : parse pattern = .error .tooLong := by
  have long' : maxLength < pattern.toList.length := String.length_toList ▸ long
  rw [parse, if_neg (mt all_isBlank_iff.mp filled), lineFault?, if_neg (mt any_break_iff.mp unbroken),
    if_pos long']

/-- A text without a fault of its line is judged by its form alone. -/
theorem parse_oneLine (line : OneLine pattern) : parse pattern =
    match form? pattern.toList with
    | some form => if form.isDeprecated then .error .deprecatedColonStar else .ok form
    | none => .error (.invalidFormat pattern) := by
  obtain ⟨filled, none⟩ := oneLine_iff.mp line
  rw [parse, if_neg (mt all_isBlank_iff.mp filled), none, form?]
  dsimp only
  cases splitCall pattern.toList with
  | some parts => simp [Form.isDeprecated]
  | none =>
    cases splitSubcommand pattern.toList with
    | some parts => rfl
    | none =>
      dsimp only
      split
      · rw [String.ofList_toList]
        rfl
      · rfl

theorem answers_parse (pattern : String) : Answers pattern (parse pattern) := by
  by_cases blank : Blank pattern
  · exact parse_blank blank ▸ .empty blank
  by_cases broken : Broken pattern
  · exact parse_broken blank broken ▸ .newline blank broken
  by_cases long : 500 < pattern.length
  · exact parse_long blank broken long ▸ .tooLong blank broken long
  have line : OneLine pattern := ⟨blank, broken, Nat.not_lt.mp long⟩
  rw [parse_oneLine line]
  cases found : form? pattern.toList with
  | none =>
    refine .invalidFormat line fun form spells => ?_
    rw [form?_of_spells spells] at found
    contradiction
  | some form =>
    have spells := spells_of_form? found
    by_cases old : form.isDeprecated = true
    · simp only [old, if_true]
      exact .deprecated line spells (Form.isDeprecated_iff.mp old)
    · simp only [old]
      exact .form line spells (mt Form.isDeprecated_iff.mpr old)

theorem parse_of_answers {answer : Except Fault Form} (answers : Answers pattern answer) :
    parse pattern = answer := by
  cases answers with
  | empty blank => exact parse_blank blank
  | newline filled broken => exact parse_broken filled broken
  | tooLong filled unbroken long => exact parse_long filled unbroken long
  | form line spells current =>
    rw [parse_oneLine line, form?_of_spells spells]
    exact if_neg (mt Form.isDeprecated_iff.mp current)
  | deprecated line spells old =>
    rw [parse_oneLine line, form?_of_spells spells]
    exact if_pos (Form.isDeprecated_iff.mpr old)
  | invalidFormat line shapeless =>
    rw [parse_oneLine line]
    cases found : form? pattern.toList with
    | none => rfl
    | some form => exact absurd (spells_of_form? found) (shapeless form)

theorem parse_eq_iff {answer : Except Fault Form} : parse pattern = answer ↔ Answers pattern answer := by
  constructor
  · rintro rfl
    exact answers_parse pattern
  · exact parse_of_answers

theorem parse_eq_empty : parse pattern = .error .empty ↔ Blank pattern := by
  rw [parse_eq_iff]
  constructor
  · intro answers
    cases answers with
    | empty blank => exact blank
  · exact .empty

theorem parse_eq_newline :
    parse pattern = .error .newline ↔ ¬ Blank pattern ∧ Broken pattern := by
  rw [parse_eq_iff]
  constructor
  · intro answers
    cases answers with
    | newline filled broken => exact ⟨filled, broken⟩
  · rintro ⟨filled, broken⟩
    exact .newline filled broken

theorem parse_eq_tooLong : parse pattern = .error .tooLong ↔
    ¬ Blank pattern ∧ ¬ Broken pattern ∧ 500 < pattern.length := by
  rw [parse_eq_iff]
  constructor
  · intro answers
    cases answers with
    | tooLong filled unbroken long => exact ⟨filled, unbroken, long⟩
  · rintro ⟨filled, unbroken, long⟩
    exact .tooLong filled unbroken long

theorem parse_eq_ok :
    parse pattern = .ok form ↔ OneLine pattern ∧ Spells pattern form ∧ ¬ form.Deprecated := by
  rw [parse_eq_iff]
  constructor
  · intro answers
    cases answers with
    | form line spells current => exact ⟨line, spells, current⟩
  · rintro ⟨line, spells, current⟩
    exact .form line spells current

theorem parse_eq_deprecated : parse pattern = .error .deprecatedColonStar ↔
    OneLine pattern ∧ ∃ form, Spells pattern form ∧ form.Deprecated := by
  rw [parse_eq_iff]
  constructor
  · intro answers
    cases answers with
    | deprecated line spells old => exact ⟨line, _, spells, old⟩
  · rintro ⟨line, form, spells, old⟩
    exact .deprecated line spells old

theorem parse_eq_invalidFormat {shown : String} : parse pattern = .error (.invalidFormat shown) ↔
    shown = pattern ∧ OneLine pattern ∧ ∀ form, ¬ Spells pattern form := by
  rw [parse_eq_iff]
  constructor
  · intro answers
    cases answers with
    | invalidFormat line shapeless => exact ⟨rfl, line, shapeless⟩
  · rintro ⟨rfl, line, shapeless⟩
    exact .invalidFormat line shapeless

theorem fault?_eq_some {fault : Fault} : fault? pattern = some fault ↔ parse pattern = .error fault := by
  unfold fault?
  cases parse pattern with
  | ok form => simp
  | error other => simp

theorem isValid_iff : isValid pattern = true ↔ ∃ form, parse pattern = .ok form := by
  unfold isValid fault?
  cases parse pattern with
  | ok form => simp
  | error fault => simp

/-- The reader decides the grammar, and the faults of a text are told in this order: a blank text, a line
break, a text of more than 500 characters, a deprecated call, and at last a text without a form. -/
theorem parse_decides_grammar (pattern : String) :
    (parse pattern = .error .empty ↔ Blank pattern) ∧
    (parse pattern = .error .newline ↔ ¬ Blank pattern ∧ Broken pattern) ∧
    (parse pattern = .error .tooLong ↔
      ¬ Blank pattern ∧ ¬ Broken pattern ∧ 500 < pattern.length) ∧
    (∀ form, parse pattern = .ok form ↔
      OneLine pattern ∧ Spells pattern form ∧ ¬ form.Deprecated) ∧
    (parse pattern = .error .deprecatedColonStar ↔
      OneLine pattern ∧ ∃ form, Spells pattern form ∧ form.Deprecated) ∧
    (∀ shown, parse pattern = .error (.invalidFormat shown) ↔
      shown = pattern ∧ OneLine pattern ∧ ∀ form, ¬ Spells pattern form) ∧
    (isValid pattern = true ↔ ∃ form, parse pattern = .ok form) ∧
    ∀ fault, fault? pattern = some fault ↔ parse pattern = .error fault :=
  ⟨parse_eq_empty, parse_eq_newline, parse_eq_tooLong, fun _ => parse_eq_ok, parse_eq_deprecated,
    fun _ => parse_eq_invalidFormat, isValid_iff, fun _ => fault?_eq_some⟩

-- A line break alone is a blank text, and the argument of a call ends at the last character.
example : fault? "\n" = some .empty ∧ fault? "A(b)(c:*)" = some .deprecatedColonStar ∧
    fault? "A(b):c" = some (.invalidFormat "A(b):c") := by
  decide

end PermissionRules.Pattern
