import PermissionRules.Document.Lexeme

/-! A document while it is read. Open containers lie on a stack with their elements so far, the
newest first, so that a text nested to any depth is read token by token. -/
namespace PermissionRules.Document

/-- An open container that waits for the value of an element. -/
inductive Frame where
  | array (items : List Value)
  | object (members : List (String × Value)) (key : String)
  deriving DecidableEq, Repr

inductive Reading where
  /-- A value is due. -/
  | awaitValue (stack : List Frame)
  /-- An item or the end of an array is due. -/
  | awaitItem (items : List Value) (stack : List Frame)
  /-- A key or the end of an object is due. -/
  | awaitKey (members : List (String × Value)) (stack : List Frame)
  /-- The colon after a key is due. -/
  | awaitColon (members : List (String × Value)) (key : String) (stack : List Frame)
  /-- A value is complete. -/
  | complete (value : Value) (stack : List Frame)
  deriving DecidableEq, Repr

namespace Reading

/-- What a token begins where a value is due. -/
def begin? (stack : List Frame) : Token → Option Reading
  | .openBracket => some (.awaitItem [] stack)
  | .openBrace => some (.awaitKey [] stack)
  | .text text => some (.complete (.string text) stack)
  | .number value => some (.complete value stack)
  | .word name true => (literal? name).map (.complete · stack)
  | _ => none

def closeArray (items : List Value) (stack : List Frame) : Reading :=
  .complete (.array items.reverse) stack

def closeObject (members : List (String × Value)) (stack : List Frame) : Reading :=
  .complete (.object (Ordered.ofWritten members.reverse)) stack

/-- Reads one token. An element may be followed by a comma and the end of its container. -/
def step? : Reading → Token → Option Reading
  | .awaitValue stack, token => begin? stack token
  | .awaitItem items stack, .closeBracket => some (closeArray items stack)
  | .awaitItem items stack, token => begin? (.array items :: stack) token
  | .awaitKey members stack, .closeBrace => some (closeObject members stack)
  | .awaitKey members stack, .text key => some (.awaitColon members key stack)
  | .awaitKey members stack, .word key _ => some (.awaitColon members key stack)
  | .awaitColon members key stack, .colon => some (.awaitValue (.object members key :: stack))
  | .complete value (.array items :: stack), .comma => some (.awaitItem (value :: items) stack)
  | .complete value (.array items :: stack), .closeBracket =>
    some (closeArray (value :: items) stack)
  | .complete value (.object members key :: stack), .comma =>
    some (.awaitKey ((key, value) :: members) stack)
  | .complete value (.object members key :: stack), .closeBrace =>
    some (closeObject ((key, value) :: members) stack)
  | _, _ => none

/-- The value read, once no container is open. -/
def finish? : Reading → Option Value
  | .complete value [] => some value
  | _ => none

def start : Reading := .awaitValue []

end Reading

/-- The value that a list of tokens spells. -/
def ofTokens? (tokens : List Token) : Option Value :=
  (tokens.foldlM Reading.step? .start).bind Reading.finish?

/-- Reads a document written with the liberties of hand-edited text: comments, trailing commas,
unquoted keys, quotes of either kind and further spellings of numbers. -/
def readRelaxed (text : List Char) : Option Value :=
  (tokens text).bind ofTokens?

end PermissionRules.Document
