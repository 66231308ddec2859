/-! Faults of strict document texts. A fault is found with some text left over; its position counts the
lines, and the bytes of the last line, that were read before it. -/
namespace PermissionRules.Document

inductive Reason where
  | unfinishedValue
  | unfinishedString
  | unfinishedArray
  | unfinishedObject
  | expectedValue
  | expectedIdent
  | expectedColon
  | expectedItemEnd
  | expectedMemberEnd
  | keyNotString
  | trailingComma
  | trailingCharacters
  | invalidNumber
  | numberOutOfRange
  | invalidEscape
  | unpairedSurrogate
  | unfinishedSurrogatePair
  | controlCharacter
  | tooDeep
  deriving DecidableEq, Repr

def Reason.message : Reason → String
  | unfinishedValue => "EOF while parsing a value"
  | unfinishedString => "EOF while parsing a string"
  | unfinishedArray => "EOF while parsing a list"
  | unfinishedObject => "EOF while parsing an object"
  | expectedValue => "expected value"
  | expectedIdent => "expected ident"
  | expectedColon => "expected `:`"
  | expectedItemEnd => "expected `,` or `]`"
  | expectedMemberEnd => "expected `,` or `\x7d`"
  | keyNotString => "key must be a string"
  | trailingComma => "trailing comma"
  | trailingCharacters => "trailing characters"
  | invalidNumber => "invalid number"
  | numberOutOfRange => "number out of range"
  | invalidEscape => "invalid escape"
  | unpairedSurrogate => "lone leading surrogate in hex escape"
  | unfinishedSurrogatePair => "unexpected end of hex escape"
  | controlCharacter => "control character (\\u0000-\\u001F) found while parsing a string"
  | tooDeep => "recursion limit exceeded"

/-- A fault with what was left of the text. The reader may have looked `ahead` by some bytes of it,
though never beyond its end. -/
structure Fault (ρ : Type) where
  reason : ρ
  rest : List Char
  ahead : Nat
  deriving DecidableEq, Repr

def bytes (text : List Char) : List UInt8 :=
  text.flatMap String.utf8EncodeChar

/-- A line, counted from one, and the bytes of it. -/
structure Position where
  line : Nat
  column : Nat
  deriving DecidableEq, Repr

def Position.start : Position := ⟨1, 0⟩

def Position.advance (position : Position) (byte : UInt8) : Position :=
  if byte = 10 then ⟨position.line + 1, 0⟩ else ⟨position.line, position.column + 1⟩

def Fault.position {ρ : Type} (text : List Char) (fault : Fault ρ) : Position :=
  let read := (bytes text).length - (bytes fault.rest).length + fault.ahead
  ((bytes text).take read).foldl Position.advance .start

/-- A reason at a position of the text, in words. -/
def Position.message (position : Position) (reason : String) : String :=
  reason ++ " at line " ++ toString position.line ++ " column " ++ toString position.column

end PermissionRules.Document
