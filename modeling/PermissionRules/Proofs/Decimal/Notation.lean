import PermissionRules.Proofs.Decimal.Digits
import PermissionRules.Proofs.Decimal.Rounding
import PermissionRules.Proofs.Text.Runs

/-! The text of a decimal is a numeral of the same value. Both notations spell the significant digits,
with zeros before or after them, and the exponent that their point leaves. -/
namespace PermissionRules.Decimal
open Document Text

theorem ofText?_point {whole fraction tail : List Char} {exponent : Int}
    (wholeDigits : ∀ c ∈ whole, c.isDigit = true) (fractionDigits : ∀ c ∈ fraction, c.isDigit = true)
    (nonempty : whole ≠ []) (stop : ∀ c ∈ tail.head?, c.isDigit = false)
    (read : Numeral.exponent? tail = some exponent) :
    Numeral.ofText? (whole ++ '.' :: (fraction ++ tail)) =
      some ⟨whole, fraction, exponent, false⟩ := by
  have point : ∀ c ∈ ('.' :: (fraction ++ tail)).head?, c.isDigit = false := by
    rintro c ⟨⟩
    rfl
  simp only [Numeral.ofText?, takeWhile_run wholeDigits point, dropWhile_run wholeDigits point,
    takeWhile_run fractionDigits stop, dropWhile_run fractionDigits stop, read, Option.map_some,
    List.isEmpty_eq_false_iff.mpr nonempty, Bool.false_and]
  rfl

theorem ofText?_whole {whole : List Char} (digits : ∀ c ∈ whole, c.isDigit = true)
    (nonempty : whole ≠ []) : Numeral.ofText? whole = some ⟨whole, [], 0, true⟩ := by
  rw [Numeral.ofText?, List.takeWhile_eq_self_iff.mpr digits, List.dropWhile_eq_nil_iff.mpr digits,
    List.isEmpty_eq_false_iff.mpr nonempty]
  rfl

theorem ofText?_exponent {whole tail : List Char} {mark : Char} {exponent : Int}
    (wholeDigits : ∀ c ∈ whole, c.isDigit = true) (nonempty : whole ≠ []) (mark' : mark ∈ ['e', 'E'])
    (read : Numeral.exponent? (mark :: tail) = some exponent) :
    Numeral.ofText? (whole ++ mark :: tail) = some ⟨whole, [], exponent, false⟩ := by
  have other : ∀ c ∈ ['e', 'E'], c.isDigit = false ∧ c ≠ '.' := forall_mem_of_all (by decide)
  obtain ⟨digit, point⟩ := other mark mark'
  have stop : ∀ c ∈ (mark :: tail).head?, c.isDigit = false := by
    rintro c ⟨⟩
    exact digit
  simp only [Numeral.ofText?, takeWhile_run wholeDigits stop, dropWhile_run wholeDigits stop]
  simp [nonempty, point, read]

theorem signedExponent?_toDigits (negative : Bool) (n : Nat) :
    Numeral.signedExponent? negative (Nat.toDigits 10 n) =
      some (if negative then -(n : Int) else n) := by
  have digit : (Nat.toDigits 10 n).all Char.isDigit = true :=
    List.all_eq_true.mpr fun c member => isDigit_of_mem_toDigits member
  have nonempty : (Nat.toDigits 10 n).isEmpty = false :=
    List.isEmpty_eq_false_iff.mpr Nat.toDigits_ne_nil
  simp [Numeral.signedExponent?, digit, nonempty, naturalOf_toDigits]

theorem exponent?_signedDigits (n : Int) : Numeral.exponent? ('e' :: signedDigits n) = some n := by
  cases n with
  | ofNat n => exact signedExponent?_toDigits false n
  | negSucc n => exact signedExponent?_toDigits true (n + 1)

/-- A text that reads as a numeral other than an integer, with the value of a decimal. -/
def Spells (text : List Char) (d : Decimal) : Prop :=
  ∃ numeral : Numeral, Numeral.ofText? text = some numeral ∧ numeral.integral = false ∧
    numeral.decimal.code? = d.code?

/-- The parts of a positional numeral spell the digits on both sides of the point. -/
theorem spells_of_point {whole fraction : List Char} (wholeDigits : ∀ c ∈ whole, c.isDigit = true)
    (fractionDigits : ∀ c ∈ fraction, c.isDigit = true) (nonempty : whole ≠ []) :
    Spells (whole ++ '.' :: fraction) ⟨naturalOf (whole ++ fraction), -fraction.length⟩ := by
  have read : Numeral.ofText? (whole ++ '.' :: (fraction ++ [])) =
      some ⟨whole, fraction, 0, false⟩ :=
    ofText?_point wholeDigits fractionDigits nonempty nofun rfl
  rw [List.append_nil] at read
  refine ⟨_, read, rfl, ?_⟩
  rw [Numeral.decimal, Int.zero_sub]

theorem Spells.congr {text : List Char} {d d' : Decimal} (spells : Spells text d)
    (same : d.code? = d'.code?) : Spells text d' := by
  obtain ⟨numeral, read, fractional, value⟩ := spells
  exact ⟨numeral, read, fractional, value.trans same⟩

theorem isDigit_zeros (n : Nat) : ∀ c ∈ List.replicate n '0', c.isDigit = true := by
  intro c member
  rw [List.eq_of_mem_replicate member]
  rfl

variable {digits : List Char}

theorem positional_spells (digit : ∀ c ∈ digits, c.isDigit = true) (nonempty : digits ≠ [])
    (leading : Int) :
    Spells (positional digits leading) ⟨naturalOf digits, leading + 1 - digits.length⟩ := by
  cases leading with
  | ofNat leading =>
    by_cases short : digits.length ≤ leading + 1
    · -- All digits stand before the point, with zeros for the places up to it.
      have text : positional digits (.ofNat leading) =
          (digits ++ List.replicate (leading + 1 - digits.length) '0') ++ '.' :: ['0'] := by
        simp [positional, List.take_of_length_le short, List.drop_eq_nil_of_le short]
      have value : naturalOf (digits ++ List.replicate (leading + 1 - digits.length) '0' ++ ['0']) =
          naturalOf digits * 10 ^ (leading + 2 - digits.length) := by
        rw [List.append_assoc, ← List.replicate_succ', naturalOf_append, naturalOf_zeros,
          List.length_replicate, Nat.add_zero, ← Nat.sub_add_comm short]
      rw [text]
      refine (spells_of_point ?_ (List.forall_mem_singleton.mpr rfl) (by simp [nonempty])).congr ?_
      · simp only [List.mem_append]
        exact fun c => Or.rec (digit c) (isDigit_zeros _ c)
      · rw [value, ← code?_shift ⟨naturalOf digits, _⟩ (leading + 2 - digits.length)]
        congr 2
        simp only [List.length_singleton, Int.ofNat_eq_natCast]
        omega
    · have text : positional digits (.ofNat leading) =
          digits.take (leading + 1) ++ '.' :: digits.drop (leading + 1) := by
        have zeros : leading + 1 - digits.length = 0 := by omega
        have places : (digits.drop (leading + 1)).isEmpty = false := by
          simpa using short
        simp [positional, zeros, places]
      rw [text]
      refine (spells_of_point (fun c member => digit c (List.mem_of_mem_take member))
        (fun c member => digit c (List.mem_of_mem_drop member)) (by simp [nonempty])).congr ?_
      rw [List.take_append_drop]
      congr 2
      simp only [List.length_drop, Int.ofNat_eq_natCast]
      omega
  | negSucc zeros =>
    have places : ∀ c ∈ List.replicate zeros '0' ++ digits, c.isDigit = true := by
      simp only [List.mem_append]
      exact fun c => Or.rec (isDigit_zeros _ c) (digit c)
    have value : naturalOf (['0'] ++ (List.replicate zeros '0' ++ digits)) = naturalOf digits := by
      have front : naturalOf (['0'] ++ List.replicate zeros '0') = 0 := naturalOf_zeros (zeros + 1)
      rw [← List.append_assoc, naturalOf_append, front, Nat.zero_mul, Nat.zero_add]
    have zero : ∀ c ∈ ['0'], c.isDigit = true := isDigit_zeros 1
    refine (spells_of_point zero places (List.cons_ne_nil _ _)).congr ?_
    rw [value]
    congr 2
    simp only [List.length_append, List.length_replicate, Int.negSucc_eq]
    omega

theorem scientific_spells (digit : ∀ c ∈ digits, c.isDigit = true) (nonempty : digits ≠ [])
    (leading : Int) :
    Spells (scientific digits leading) ⟨naturalOf digits, leading + 1 - digits.length⟩ := by
  cases digits with
  | nil => exact absurd rfl nonempty
  | cons first rest =>
    cases rest with
    | nil =>
      refine ⟨⟨[first], [], leading, false⟩,
        ofText?_exponent digit nonempty List.mem_cons_self (exponent?_signedDigits leading), rfl, ?_⟩
      simp [Numeral.decimal]
    | cons second rest =>
      have firstDigit : ∀ c ∈ [first], c.isDigit = true :=
        fun c member => digit c (by simp_all)
      have read : Numeral.ofText? ([first] ++ '.' :: (second :: rest ++ 'e' :: signedDigits leading)) =
          some ⟨[first], second :: rest, leading, false⟩ := by
        refine ofText?_point firstDigit (fun c member => digit c (List.mem_cons_of_mem _ member))
          (List.cons_ne_nil _ _) ?_ (exponent?_signedDigits leading)
        rintro c ⟨⟩
        rfl
      refine ⟨_, read, rfl, ?_⟩
      rw [Numeral.decimal]
      congr 2
      simp only [List.length_cons]
      omega

/-- The text of a decimal reads as a numeral with its value. -/
theorem write_spells (d : Decimal) : Spells d.write d := by
  by_cases zero : d.digits = 0
  · have value : code? ⟨naturalOf (['0'] ++ ['0']), -1⟩ = d.code? := by
      rw [code?_eq_exact, code?_eq_exact, exactCode_zero zero, exactCode_zero rfl]
    have digit : ∀ c ∈ ['0'], c.isDigit = true := isDigit_zeros 1
    rw [write, if_pos zero]
    exact (spells_of_point digit digit (List.cons_ne_nil _ _)).congr value
  · obtain ⟨first, rest, zeros, kept, _, digit, value, length⟩ := significant_toDigits zero
    have same : code? ⟨naturalOf (first :: rest),
        d.exponent + (Nat.toDigits 10 d.digits).length - 1 + 1 - (first :: rest).length⟩ =
          d.code? := by
      rw [← code?_shift ⟨naturalOf (first :: rest), _⟩ zeros, ← value, length]
      congr 2
      push_cast
      omega
    simp only [write, if_neg zero, kept]
    split
    · exact (positional_spells digit (List.cons_ne_nil _ _) _).congr same
    · exact (scientific_spells digit (List.cons_ne_nil _ _) _).congr same

end PermissionRules.Decimal
