import PermissionRules.Proofs.Document.NumberTokens

/-! Written strings and literals are single tokens. A character is read back from its escape wherever
it stands, and a literal ends where a written document goes on. -/
namespace PermissionRules.Document
open Text

variable {text left rest following : List Char}

theorem readHex_lowHex {n : Nat} (low : n < 32) (rest : List Char) :
    readHex 4 (['0', '0'] ++ lowHex n ++ rest) = some (n, rest) := by
  have digits : ∀ n < 32, (['0', '0'] ++ lowHex n).all isHexDigit = true ∧
      hexNumber (['0', '0'] ++ lowHex n) = n := by decide
  obtain ⟨hex, value⟩ := digits n low
  have length : (['0', '0'] ++ lowHex n).length = 4 := rfl
  simp only [readHex, List.take_left' length, List.drop_left' length, length, hex, value,
    decide_true, Bool.and_self, if_true]

/-- The escape of a control character without a letter of its own. -/
theorem readEscape_control {c : Char} (control : c < ' ') (rest : List Char) :
    readEscape ('u' :: (['0', '0'] ++ lowHex c.toNat ++ rest)) = some ([c], rest) := by
  have low : c.toNat < 32 := control
  have lead : isLead c.toNat = false := by
    simp only [isLead, Bool.and_eq_false_imp, decide_eq_true_eq]
    omega
  have trail : isTrail c.toNat = false := by
    simp only [isTrail, Bool.and_eq_false_imp, decide_eq_true_eq]
    omega
  simp only [readEscape, readUnicodeEscape, readHex_lowHex low, lead, trail, Bool.false_eq_true,
    if_false, Option.map_some, Char.ofNat_toNat]

theorem readString_backslash {quote c : Char} {escape : List Char}
    (unescaped : readEscape escape = some ([c], rest))
    (read : readString quote rest = some (text, left)) :
    readString quote ('\\' :: escape) = some (c :: text, left) := by
  rw [readString]
  split
  case h_1 none => rw [unescaped] at none; contradiction
  case h_2 same =>
    obtain ⟨rfl, rfl⟩ := Prod.mk.inj (Option.some.inj (unescaped.symm.trans same))
    rw [read]
    rfl

theorem readString_raw {quote c : Char} (open' : c ≠ quote) (plain : c ≠ '\\' ∧ c ≠ '\n' ∧ c ≠ '\r')
    (read : readString quote rest = some (text, left)) :
    readString quote (c :: rest) = some (c :: text, left) := by
  obtain ⟨backslash, lineFeed, carriageReturn⟩ := plain
  rw [readString.eq_3 _ _ _ backslash]
  simp [open', lineFeed, carriageReturn, read]

theorem readString_escape (c : Char) (read : readString '"' rest = some (text, left)) :
    readString '"' (escape c ++ rest) = some (c :: text, left) := by
  unfold escape
  split
  case h_8 _ quote backslash _ _ lineFeed _ carriageReturn =>
    split
    case isTrue control =>
      exact readString_backslash (readEscape_control control rest) read
    case isFalse =>
      exact readString_raw quote ⟨backslash, lineFeed, carriageReturn⟩ read
  all_goals exact readString_backslash rfl read

theorem readString_escaped (text following : List Char) :
    readString '"' (text.flatMap escape ++ '"' :: following) = some (text, following) := by
  induction text with
  | nil =>
    rw [List.flatMap_nil, List.nil_append, readString.eq_3 _ _ _ (by decide)]
    rfl
  | cons c text ih =>
    rw [List.flatMap_cons, List.append_assoc]
    exact readString_escape c ih

theorem readToken_quoted (text : String) (following : List Char) :
    readToken (quoted text ++ following) = some (.text text, following) := by
  have read := readString_escaped text.toList following
  simp [quoted, readToken, read]

theorem readWordRest_plain {name : List Char} (inside : ∀ c ∈ name, isIdentifierRest c = true)
    (closes : Closes following) :
    readWordRest (name ++ following) = some (name, true, following) := by
  have backslash : isIdentifierRest '\\' = false := by decide +kernel
  have plain : ∀ c rest, c ≠ '\\' → readWordRest (c :: rest) =
      if isIdentifierRest c then (readWordRest rest).map fun read => (c :: read.1, read.2)
      else some ([], true, c :: rest) := by
    intro c rest different
    exact readWordRest.eq_3 c rest fun _ equal => absurd equal different
  induction name with
  | nil =>
    cases following with
    | nil => rw [List.nil_append, readWordRest]
    | cons c rest =>
      obtain ⟨_, stop, different⟩ := closes c rfl
      rw [List.nil_append, plain c rest different, stop]
      rfl
  | cons c name ih =>
    have here := inside c List.mem_cons_self
    have different : c ≠ '\\' := by
      intro equal
      simp only [equal, backslash, Bool.false_eq_true] at here
    rw [List.cons_append, plain c _ different, if_pos here,
      ih fun c member => inside c (List.mem_cons_of_mem _ member)]
    rfl

/-- The tokens of the three literals that are written. -/
theorem readToken_literals (closes : Closes following) :
    readToken ('n' :: 'u' :: 'l' :: 'l' :: following) = some (.word "null" true, following) ∧
    readToken ('t' :: 'r' :: 'u' :: 'e' :: following) = some (.word "true" true, following) ∧
    readToken ('f' :: 'a' :: 'l' :: 's' :: 'e' :: following) =
      some (.word "false" true, following) := by
  have word : ∀ {first : Char} {name : List Char}, isIdentifierStart first = true →
      first ∈ ['n', 't', 'f'] → (∀ c ∈ name, isIdentifierRest c = true) →
      readToken (first :: (name ++ following)) =
        some (.word (.ofList (first :: name)) true, following) := by
    intro first name start letter inside
    have read := readWordRest_plain inside closes
    simp only [List.mem_cons, List.not_mem_nil, or_false] at letter
    rcases letter with rfl | rfl | rfl <;> simp [readToken, readWord, start, read]
  have null := @word 'n' ['u', 'l', 'l'] (by decide +kernel) (by decide)
    (forall_mem_of_all (by decide +kernel))
  have true' := @word 't' ['r', 'u', 'e'] (by decide +kernel) (by decide)
    (forall_mem_of_all (by decide +kernel))
  have false' := @word 'f' ['a', 'l', 's', 'e'] (by decide +kernel) (by decide)
    (forall_mem_of_all (by decide +kernel))
  exact ⟨null, true', false'⟩

end PermissionRules.Document
