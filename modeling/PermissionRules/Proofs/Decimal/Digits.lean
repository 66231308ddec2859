import PermissionRules.Decimal.Notation
import PermissionRules.Document.Numeral
import Mathlib.Algebra.Group.Nat.Defs
import Mathlib.Data.List.TakeWhile

/-! Lists of decimal digits and the numbers they denote. Digits of a number other than zero do not
start with a zero, and zeros at their end are powers of ten. -/
namespace PermissionRules.Document

theorem naturalOf_append (front back : List Char) :
    naturalOf (front ++ back) = naturalOf front * 10 ^ back.length + naturalOf back := by
  rw [naturalOf, Nat.ofDigitChars_append, Nat.ofDigitChars_eq_ofDigitChars_zero, Nat.mul_comm]
  rfl

theorem naturalOf_zeros (n : Nat) : naturalOf (List.replicate n '0') = 0 := by
  rw [naturalOf, Nat.ofDigitChars_replicate_zero, Nat.mul_zero]

theorem naturalOf_toDigits (n : Nat) : naturalOf (Nat.toDigits 10 n) = n :=
  Nat.ofDigitChars_ten_toDigits

end PermissionRules.Document

namespace PermissionRules.Decimal
open Document

theorem isDigit_of_mem_toDigits {n : Nat} {c : Char} (member : c ∈ Nat.toDigits 10 n) :
    c.isDigit = true :=
  Nat.isDigit_of_mem_toDigits (by decide) (by decide) member

theorem isDigit_of_mem_toString {n : Nat} {c : Char} (member : c ∈ (toString n).toList) :
    c.isDigit = true := by
  rw [Nat.toString_eq_repr, Nat.toList_repr] at member
  exact isDigit_of_mem_toDigits member

theorem toDigits_head_ne_zero {n : Nat} (nonzero : n ≠ 0) :
    (Nat.toDigits 10 n).head? ≠ some '0' := by
  induction n using Nat.strongRecOn with
  | _ n ih =>
    rw [Nat.toDigits_eq_if (by decide)]
    split
    case isTrue small =>
      have digits : ∀ m < 10, m ≠ 0 → [m.digitChar].head? ≠ some '0' := by decide
      exact digits n small nonzero
    case isFalse large =>
      have front := ih (n / 10) (by omega) (by omega)
      rw [List.head?_append]
      cases digits : Nat.toDigits 10 (n / 10) with
      | nil => exact absurd digits Nat.toDigits_ne_nil
      | cons first rest => simpa only [digits, List.head?_cons, Option.some_or] using front

/-- The digits of a number other than zero start with a digit other than zero. -/
theorem toDigits_cons {n : Nat} (nonzero : n ≠ 0) : ∃ first rest,
    Nat.toDigits 10 n = first :: rest ∧ first.isDigit = true ∧ first ≠ '0' := by
  cases digits : Nat.toDigits 10 n with
  | nil => exact absurd digits Nat.toDigits_ne_nil
  | cons first rest =>
    refine ⟨first, rest, rfl, ?_, ?_⟩
    · exact isDigit_of_mem_toDigits (n := n) (digits ▸ List.mem_cons_self)
    · rintro rfl
      exact toDigits_head_ne_zero nonzero (digits ▸ rfl)

theorem significant_append_zeros (digits : List Char) : ∃ zeros,
    digits = significant digits ++ List.replicate zeros '0' := by
  have zeros : digits.reverse.takeWhile (· == '0') =
      List.replicate (digits.reverse.takeWhile (· == '0')).length '0' := by
    refine List.eq_replicate_iff.mpr ⟨rfl, fun c member => ?_⟩
    simpa using List.mem_takeWhile_imp member
  refine ⟨(digits.reverse.takeWhile (· == '0')).length, ?_⟩
  calc digits = (digits.reverse.takeWhile (· == '0') ++
          digits.reverse.dropWhile (· == '0')).reverse := by
        rw [List.takeWhile_append_dropWhile, List.reverse_reverse]
    _ = significant digits ++ List.replicate _ '0' := by
        rw [List.reverse_append, congrArg List.reverse zeros, List.reverse_replicate]
        rfl

/-- The significant digits of a number other than zero, with the zeros that stood after them. -/
theorem significant_toDigits {n : Nat} (nonzero : n ≠ 0) : ∃ first rest zeros,
    significant (Nat.toDigits 10 n) = first :: rest ∧ first ≠ '0' ∧
    (∀ c ∈ first :: rest, c.isDigit = true) ∧
    n = naturalOf (first :: rest) * 10 ^ zeros ∧
    (Nat.toDigits 10 n).length = (first :: rest).length + zeros := by
  obtain ⟨zeros, same⟩ := significant_append_zeros (Nat.toDigits 10 n)
  obtain ⟨first, tail, digits, _, leading⟩ := toDigits_cons nonzero
  have value : n = naturalOf (significant (Nat.toDigits 10 n)) * 10 ^ zeros := by
    have value := congrArg naturalOf same
    rwa [naturalOf_toDigits, naturalOf_append, naturalOf_zeros, List.length_replicate,
      Nat.add_zero] at value
  cases kept : significant (Nat.toDigits 10 n) with
  | nil =>
    rw [kept] at value
    exact absurd (value.trans (Nat.zero_mul _)) nonzero
  | cons first' rest =>
    rw [kept] at same value
    have sameFirst : first = first' := by
      rw [digits, List.cons_append] at same
      exact (List.cons.inj same).1
    refine ⟨first', rest, zeros, rfl, sameFirst ▸ leading, ?_, value, ?_⟩
    · intro c member
      apply isDigit_of_mem_toDigits (n := n)
      rw [same]
      exact List.mem_append_left _ member
    · rw [congrArg List.length same, List.length_append, List.length_replicate]

end PermissionRules.Decimal
