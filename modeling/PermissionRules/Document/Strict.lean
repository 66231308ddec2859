import PermissionRules.Document.Clipped
import PermissionRules.Document.Fault
import PermissionRules.Document.Lexeme
import PermissionRules.Document.Reading

/-! Reading strict document texts. Every text this reader accepts is accepted by the relaxed reader
too; its use is to say where and why a text is refused. -/
namespace PermissionRules.Document.Strict

abbrev Result (α : Type) := Except (Fault Reason) α

/-- A fault before the text left over. -/
def here {α : Type} (reason : Reason) (rest : List Char) : Result α :=
  .error ⟨reason, rest, 0⟩

/-- A fault at the byte after those read. -/
def next {α : Type} (reason : Reason) (rest : List Char) : Result α :=
  .error ⟨reason, rest, 1⟩

@[simp, grind =]
theorem here_eq_ok {α : Type} {reason : Reason} {rest : List Char} {a : α} :
    (here reason rest = .ok a) = False := by simp [here]

@[simp, grind =]
theorem next_eq_ok {α : Type} {reason : Reason} {rest : List Char} {a : α} :
    (next reason rest = .ok a) = False := by simp [next]

def isBlank (c : Char) : Bool :=
  c == ' ' || c == '\t' || c == '\n' || c == '\r'

def skipBlanks (text : List Char) : List Char :=
  text.dropWhile isBlank

theorem skipBlanks_length (text : List Char) : (skipBlanks text).length ≤ text.length :=
  (List.dropWhile_suffix isBlank).length_le

def readUnit (text : List Char) : Result (Nat × List Char) :=
  if (bytes (text.take 4)).length < 4 then here .unfinishedString []
  else match readHex 4 text with
    | some read => .ok read
    | none => .error ⟨.invalidEscape, text, 4⟩

@[grind →]
theorem readUnit_length {text rest : List Char} {unit : Nat}
    (read : readUnit text = .ok (unit, rest)) : rest.length ≤ text.length := by
  grind [readUnit]

def readTrail (lead : Nat) (text : List Char) : Result (Char × List Char) :=
  match readUnit text with
  | .error fault => .error fault
  | .ok (trail, rest) =>
    if isTrail trail then .ok (surrogatePair lead trail, rest) else here .unpairedSurrogate rest

@[grind →]
theorem readTrail_length {lead : Nat} {text rest : List Char} {c : Char}
    (read : readTrail lead text = .ok (c, rest)) : rest.length ≤ text.length := by
  grind [readTrail]

def readUnicodeEscape (text : List Char) : Result (Char × List Char) :=
  match readUnit text with
  | .error fault => .error fault
  | .ok (unit, rest) =>
    if isLead unit then
      match rest with
      | '\\' :: 'u' :: second => readTrail unit second
      | [] | ['\\'] => here .unfinishedString []
      | '\\' :: second => next .unfinishedSurrogatePair second
      | rest => next .unfinishedSurrogatePair rest
    else if isTrail unit then here .unpairedSurrogate rest
    else .ok (.ofNat unit, rest)

def readEscape : List Char → Result (Char × List Char)
  | [] => here .unfinishedString []
  | '"' :: rest => .ok ('"', rest)
  | '\\' :: rest => .ok ('\\', rest)
  | '/' :: rest => .ok ('/', rest)
  | 'b' :: rest => .ok ('\x08', rest)
  | 'f' :: rest => .ok ('\x0c', rest)
  | 'n' :: rest => .ok ('\n', rest)
  | 'r' :: rest => .ok ('\r', rest)
  | 't' :: rest => .ok ('\t', rest)
  | 'u' :: rest => readUnicodeEscape rest
  | text => next .invalidEscape text

@[grind →]
theorem readUnicodeEscape_length {text rest : List Char} {c : Char}
    (read : readUnicodeEscape text = .ok (c, rest)) : rest.length ≤ text.length := by
  unfold readUnicodeEscape at read
  repeat' split at read
  all_goals grind

@[grind →]
theorem readEscape_length {text rest : List Char} {c : Char}
    (read : readEscape text = .ok (c, rest)) : rest.length ≤ text.length := by
  unfold readEscape at read
  split at read <;> grind

/-- The inside of a string up to its closing quote. -/
def readString : List Char → Result (List Char × List Char)
  | [] => here .unfinishedString []
  | '"' :: rest => .ok ([], rest)
  | '\\' :: escape =>
    match _read : readEscape escape with
    | .error fault => .error fault
    | .ok (c, rest) => (readString rest).map fun (text, rest) => (c :: text, rest)
  | c :: rest =>
    if c < ' ' then here .controlCharacter rest
    else (readString rest).map fun (text, rest) => (c :: text, rest)
termination_by text => text.length
decreasing_by
  all_goals grind

theorem map_eq_ok {α β : Type} {f : α → β} {result : Result α} {b : β} :
    result.map f = .ok b ↔ ∃ a, result = .ok a ∧ f a = b := by
  cases result <;> simp [Except.map]

@[grind →]
theorem readString_length {text denoted rest : List Char}
    (read : readString text = .ok (denoted, rest)) : rest.length < text.length := by
  fun_induction readString text generalizing denoted <;> grind [map_eq_ok]

/-- The rest of a name whose first letter was read. -/
def readName : List Char → List Char → Result (List Char)
  | [], rest => .ok rest
  | _ :: _, [] => here .unfinishedValue []
  | letter :: letters, c :: rest =>
    if c = letter then readName letters rest else next .expectedIdent (c :: rest)

@[grind →]
theorem readName_length {letters text rest : List Char}
    (read : readName letters text = .ok rest) : rest.length ≤ text.length := by
  fun_induction readName letters text <;> grind

/-- The digits of a number before its point. A zero is not followed by a digit. -/
def readWhole : List Char → Result (List Char × List Char)
  | [] => here .unfinishedValue []
  | '0' :: rest =>
    if (rest.head?.map Char.isDigit).getD false then next .invalidNumber rest
    else .ok (['0'], rest)
  | c :: rest =>
    if c.isDigit then .ok (c :: rest.takeWhile Char.isDigit, rest.dropWhile Char.isDigit)
    else next .invalidNumber (c :: rest)

theorem dropWhile_length_le (p : Char → Bool) (text : List Char) :
    (text.dropWhile p).length ≤ text.length :=
  (List.dropWhile_suffix p).length_le

@[grind →]
theorem readWhole_length {text whole rest : List Char}
    (read : readWhole text = .ok (whole, rest)) : rest.length < text.length := by
  unfold readWhole at read
  split at read <;> grind [dropWhile_length_le]

/-- The point and the digits after it, if there is a point. -/
def readFraction : List Char → Result (Option (List Char) × List Char)
  | '.' :: rest =>
    match rest.takeWhile Char.isDigit, rest.dropWhile Char.isDigit with
    | [], [] => here .unfinishedValue []
    | [], rest => next .invalidNumber rest
    | digits, rest => .ok (some digits, rest)
  | rest => .ok (none, rest)

@[grind →]
theorem readFraction_length {text rest : List Char} {digits : Option (List Char)}
    (read : readFraction text = .ok (digits, rest)) : rest.length ≤ text.length := by
  unfold readFraction at read
  grind [dropWhile_length_le]

/-- Larger exponents are out of range as soon as their digits show it. -/
def greatestExponent : Nat := Nat.pow 2 31 - 1

/-- What is left after the digit that takes an exponent beyond the greatest. -/
def afterOverflow (exponent : Nat) : List Char → List Char
  | [] => []
  | c :: rest =>
    let exponent := 10 * exponent + (c.toNat - '0'.toNat)
    if greatestExponent < exponent then rest else afterOverflow exponent rest

def readExponentDigits (negative nonzero : Bool) (text : List Char) :
    Result (Option Int × List Char) :=
  match text.takeWhile Char.isDigit with
  | [] => if text.isEmpty then here .unfinishedValue [] else next .invalidNumber text
  | digits =>
    let exponent := naturalOf digits
    if negative then .ok (some (-exponent), text.dropWhile Char.isDigit)
    else if nonzero && greatestExponent < exponent then
      here .numberOutOfRange (afterOverflow 0 text)
    else .ok (some exponent, text.dropWhile Char.isDigit)

/-- The exponent, if there is one; `nonzero` tells whether a digit before it was. -/
def readExponent (nonzero : Bool) : List Char → Result (Option Int × List Char)
  | [] => .ok (none, [])
  | c :: rest =>
    if c == 'e' || c == 'E' then
      match rest with
      | '+' :: digits => readExponentDigits false nonzero digits
      | '-' :: digits => readExponentDigits true nonzero digits
      | digits => readExponentDigits false nonzero digits
    else .ok (none, c :: rest)

@[grind →]
theorem readExponentDigits_length {negative nonzero : Bool} {text rest : List Char}
    {exponent : Option Int} (read : readExponentDigits negative nonzero text = .ok (exponent, rest)) :
    rest.length ≤ text.length := by
  unfold readExponentDigits at read
  grind [dropWhile_length_le]

@[grind →]
theorem readExponent_length {nonzero : Bool} {text rest : List Char} {exponent : Option Int}
    (read : readExponent nonzero text = .ok (exponent, rest)) : rest.length ≤ text.length := by
  unfold readExponent at read
  grind

/-- A number after its sign. -/
def readNumber (negative : Bool) (text : List Char) : Result (Value × List Char) :=
  match readWhole text with
  | .error fault => .error fault
  | .ok (whole, rest) => match readFraction rest with
    | .error fault => .error fault
    | .ok (fraction, rest) =>
      let digits := whole ++ fraction.getD []
      match readExponent (digits.any (· != '0')) rest with
      | .error fault => .error fault
      | .ok (exponent, rest) =>
        let numeral : Numeral :=
          ⟨whole, fraction.getD [], exponent.getD 0, fraction.isNone && exponent.isNone⟩
        match numeral.clippedValue? negative with
        | none => here .numberOutOfRange rest
        | some value => .ok (value, rest)

@[grind →]
theorem readNumber_length {negative : Bool} {text rest : List Char} {value : Value}
    (read : readNumber negative text = .ok (value, rest)) : rest.length < text.length := by
  unfold readNumber at read
  grind

/-- As many containers as may be open at once. -/
def maxDepth : Nat := 127

/-- Reads the beginning of a value. -/
def begin (stack : List Frame) : List Char → Result (Reading × List Char)
  | [] => here .unfinishedValue []
  | '[' :: rest =>
    if stack.length < maxDepth then .ok (.awaitItem [] stack, rest) else next .tooDeep ('[' :: rest)
  | '{' :: rest =>
    if stack.length < maxDepth then .ok (.awaitKey [] stack, rest) else next .tooDeep ('{' :: rest)
  | '"' :: rest =>
    (readString rest).map fun (text, rest) => (.complete (.string (.ofList text)) stack, rest)
  | 'n' :: rest => (readName ['u', 'l', 'l'] rest).map (.complete .null stack, ·)
  | 't' :: rest => (readName ['r', 'u', 'e'] rest).map (.complete (.bool true) stack, ·)
  | 'f' :: rest => (readName ['a', 'l', 's', 'e'] rest).map (.complete (.bool false) stack, ·)
  | '-' :: rest => (readNumber true rest).map fun (value, rest) => (.complete value stack, rest)
  | c :: rest =>
    if c.isDigit then
      (readNumber false (c :: rest)).map fun (value, rest) => (.complete value stack, rest)
    else next .expectedValue (c :: rest)

@[grind →]
theorem begin_length {stack : List Frame} {text rest : List Char} {reading : Reading}
    (read : begin stack text = .ok (reading, rest)) : rest.length < text.length := by
  unfold begin at read
  split at read <;> grind [map_eq_ok]

/-- Reads on from a text without leading blanks. A comma must be followed by another element. -/
def step : Reading → List Char → Result (Reading × List Char)
  | .awaitValue stack, text => begin stack text
  | .awaitItem items stack, text =>
    match items, text with
    | [], ']' :: rest => .ok (.closeArray [] stack, rest)
    | _ :: _, ']' :: _ => next .trailingComma text
    | [], [] => here .unfinishedArray []
    | items, text => begin (.array items :: stack) text
  | .awaitKey members stack, text =>
    match members, text with
    | [], '}' :: rest => .ok (.closeObject [] stack, rest)
    | _ :: _, '}' :: _ => next .trailingComma text
    | [], [] => here .unfinishedObject []
    | _ :: _, [] => here .unfinishedValue []
    | members, '"' :: rest =>
      (readString rest).map fun (key, rest) => (.awaitColon members (.ofList key) stack, rest)
    | _, text => next .keyNotString text
  | .awaitColon members key stack, text =>
    match text with
    | ':' :: rest => .ok (.awaitValue (.object members key :: stack), rest)
    | [] => here .unfinishedObject []
    | text => next .expectedColon text
  | .complete value (.array items :: stack), text =>
    match text with
    | ',' :: rest => .ok (.awaitItem (value :: items) stack, rest)
    | ']' :: rest => .ok (.closeArray (value :: items) stack, rest)
    | [] => here .unfinishedArray []
    | text => next .expectedItemEnd text
  | .complete value (.object members key :: stack), text =>
    match text with
    | ',' :: rest => .ok (.awaitKey ((key, value) :: members) stack, rest)
    | '}' :: rest => .ok (.closeObject ((key, value) :: members) stack, rest)
    | [] => here .unfinishedObject []
    | text => next .expectedMemberEnd text
  | .complete _ [], text => next .trailingCharacters text

@[grind →]
theorem step_length {reading after : Reading} {text rest : List Char}
    (read : step reading text = .ok (after, rest)) : rest.length < text.length := by
  unfold step at read
  split at read <;> grind [map_eq_ok]

/-- Reads on to the end of the text. -/
def readFrom (reading : Reading) (text : List Char) : Result Value :=
  match reading.finish?, (skipBlanks text).isEmpty with
  | some value, true => .ok value
  | _, _ =>
    match _read : step reading (skipBlanks text) with
    | .error fault => .error fault
    | .ok (reading, rest) => readFrom reading rest
termination_by text.length
decreasing_by
  grind [skipBlanks_length]

def read (text : List Char) : Result Value :=
  readFrom .start text

end PermissionRules.Document.Strict
