import PermissionRules.Document.Escape
import PermissionRules.Document.Numeral
import PermissionRules.Document.Token
import PermissionRules.Text.Identifier

/-! Single tokens at the start of a text. Each reader returns the token with the text after it, which
is shorter than the text before it. -/
namespace PermissionRules.Document
open Text

/-- The inside of a string up to its closing quote. Raw line feeds and carriage returns are refused;
every other raw character stands for itself. -/
def readString (quote : Char) : List Char → Option (List Char × List Char)
  | [] => none
  | '\\' :: escape =>
    match _read : readEscape escape with
    | none => none
    | some (denoted, rest) =>
      (readString quote rest).map fun (text, rest) => (denoted ++ text, rest)
  | c :: rest =>
    if c == quote then some ([], rest)
    else if c == '\n' || c == '\r' then none
    else (readString quote rest).map fun (text, rest) => (c :: text, rest)
termination_by text => text.length
decreasing_by
  all_goals grind

@[grind →]
theorem readString_length {quote : Char} {text denoted rest : List Char}
    (read : readString quote text = some (denoted, rest)) : rest.length < text.length := by
  fun_induction readString quote text generalizing denoted <;>
    grind [Option.map_eq_some_iff]

/-- The characters of a word after its start, with whether all of them were written plainly. An
escaped character must be one that may stand there unescaped. -/
def readWordRest : List Char → Option (List Char × Bool × List Char)
  | '\\' :: 'u' :: escape =>
    match _read : readUnicodeEscape escape with
    | none => none
    | some (c, rest) =>
      if isIdentifierRest c then
        (readWordRest rest).map fun (name, _, rest) => (c :: name, false, rest)
      else none
  | [] => some ([], true, [])
  | c :: rest =>
    if isIdentifierRest c then
      (readWordRest rest).map fun (name, plain, rest) => (c :: name, plain, rest)
    else some ([], true, c :: rest)
termination_by text => text.length
decreasing_by
  all_goals grind

@[grind →]
theorem readWordRest_length {text name rest : List Char} {plain : Bool}
    (read : readWordRest text = some (name, plain, rest)) : rest.length ≤ text.length := by
  fun_induction readWordRest text generalizing name plain <;>
    grind [Option.map_eq_some_iff]

def readWord : List Char → Option (Token × List Char)
  | '\\' :: 'u' :: escape =>
    match readUnicodeEscape escape with
    | none => none
    | some (c, rest) =>
      if isIdentifierStart c then
        (readWordRest rest).map fun (name, _, rest) => (.word (.ofList (c :: name)) false, rest)
      else none
  | c :: rest =>
    if isIdentifierStart c then
      (readWordRest rest).map fun (name, plain, rest) => (.word (.ofList (c :: name)) plain, rest)
    else none
  | [] => none

@[grind →]
theorem readWord_length {text rest : List Char} {token : Token}
    (read : readWord text = some (token, rest)) : rest.length < text.length := by
  unfold readWord at read
  split at read <;> grind [Option.map_eq_some_iff]

/-- The characters that a decimal numeral runs through. -/
def isNumeralRun (c : Char) : Bool :=
  c.isDigit || c == '+' || c == '-' || c == '.' || c == 'e' || c == 'E'

def readDecimal (negative : Bool) (text : List Char) : Option (Value × List Char) :=
  (Numeral.ofText? (text.takeWhile isNumeralRun)).map fun numeral =>
    (numeral.value negative, text.dropWhile isNumeralRun)

theorem dropWhile_length_lt {p : Char → Bool} {text : List Char} (some : text.takeWhile p ≠ []) :
    (text.dropWhile p).length < text.length := by
  have split := congrArg List.length (List.takeWhile_append_dropWhile (p := p) (l := text))
  have := List.length_pos_iff.mpr some
  simp only [List.length_append] at split
  omega

@[grind →]
theorem readDecimal_length {negative : Bool} {text rest : List Char} {value : Value}
    (read : readDecimal negative text = some (value, rest)) : rest.length < text.length := by
  simp only [readDecimal, Option.map_eq_some_iff, Prod.mk.injEq] at read
  obtain ⟨numeral, parsed, _, rfl⟩ := read
  apply dropWhile_length_lt
  intro empty
  simp [empty, Numeral.ofText?] at parsed

/-- Hexadecimal integers have 128 bits with their sign. -/
def hexValue? (negative : Bool) (digits : List Char) : Option Value :=
  let n := hexNumber digits
  let bound := if negative then Nat.pow 2 127 + 1 else Nat.pow 2 128
  if digits.isEmpty || bound ≤ n then none else some (integerValue negative n)

def readHexadecimal (negative : Bool) (text : List Char) : Option (Value × List Char) :=
  (hexValue? negative (text.takeWhile isHexDigit)).map fun value =>
    (value, text.dropWhile isHexDigit)

@[grind →]
theorem readHexadecimal_length {negative : Bool} {text rest : List Char} {value : Value}
    (read : readHexadecimal negative text = some (value, rest)) : rest.length < text.length := by
  simp only [readHexadecimal, Option.map_eq_some_iff, Prod.mk.injEq] at read
  obtain ⟨_, parsed, _, rfl⟩ := read
  apply dropWhile_length_lt
  intro empty
  simp [empty, hexValue?] at parsed

/-- The names of numbers without a finite value. -/
def readNonFinite : List Char → Option (Value × List Char)
  | 'I' :: 'n' :: 'f' :: 'i' :: 'n' :: 'i' :: 't' :: 'y' :: rest => some (.null, rest)
  | 'N' :: 'a' :: 'N' :: rest => some (.null, rest)
  | _ => none

@[grind →]
theorem readNonFinite_length {text rest : List Char} {value : Value}
    (read : readNonFinite text = some (value, rest)) : rest.length < text.length := by
  unfold readNonFinite at read
  split at read <;> simp only [Option.some.injEq, Prod.mk.injEq, reduceCtorEq] at read <;>
    simp only [← read.2, List.length_cons] <;> omega

/-- A number after its sign. A zero is not followed by a digit. -/
def readMagnitude (negative : Bool) : List Char → Option (Value × List Char)
  | [] => none
  | '0' :: rest =>
    match rest with
    | [] => some (.integer 0, [])
    | c :: following =>
      if c == 'x' || c == 'X' then readHexadecimal negative following
      else if c.isDigit then none
      else if c == '.' || c == 'e' || c == 'E' then readDecimal negative ('0' :: rest)
      else some (.integer 0, rest)
  | c :: rest =>
    if c.isDigit || c == '.' then readDecimal negative (c :: rest)
    else readNonFinite (c :: rest)

@[grind →]
theorem readMagnitude_length {negative : Bool} {text rest : List Char} {value : Value}
    (read : readMagnitude negative text = some (value, rest)) : rest.length < text.length := by
  unfold readMagnitude at read
  grind

def readNumber : List Char → Option (Value × List Char)
  | '+' :: rest => readMagnitude false rest
  | '-' :: rest => readMagnitude true rest
  | text => readMagnitude false text

@[grind →]
theorem readNumber_length {text rest : List Char} {value : Value}
    (read : readNumber text = some (value, rest)) : rest.length < text.length := by
  unfold readNumber at read
  grind

/-- The token at the start of a text without leading layout. -/
def readToken : List Char → Option (Token × List Char)
  | [] => none
  | '{' :: rest => some (.openBrace, rest)
  | '}' :: rest => some (.closeBrace, rest)
  | '[' :: rest => some (.openBracket, rest)
  | ']' :: rest => some (.closeBracket, rest)
  | ':' :: rest => some (.colon, rest)
  | ',' :: rest => some (.comma, rest)
  | c :: rest =>
    if c == '"' || c == '\x27' then
      (readString c rest).map fun (text, rest) => (.text (.ofList text), rest)
    else if c == '+' || c == '-' || c == '.' || c.isDigit then
      (readNumber (c :: rest)).map fun (value, rest) => (.number value, rest)
    else readWord (c :: rest)

@[grind →]
theorem readToken_length {text rest : List Char} {token : Token}
    (read : readToken text = some (token, rest)) : rest.length < text.length := by
  unfold readToken at read
  split at read <;> grind [Option.map_eq_some_iff]

/-- All tokens of a text, if it can be cut into tokens and layout. -/
def tokens (text : List Char) : Option (List Token) :=
  match _skipped : skipLayout .between text with
  | none => none
  | some [] => some []
  | some (c :: rest) =>
    match _read : readToken (c :: rest) with
    | none => none
    | some (token, rest) => (tokens rest).map (token :: ·)
termination_by text.length
decreasing_by
  grind

end PermissionRules.Document
