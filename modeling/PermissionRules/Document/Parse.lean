import PermissionRules.Document.Strict

/-! Reading a document: with the liberties of hand-edited text if possible, and otherwise strictly,
which tells where the text is at fault. -/
namespace PermissionRules.Document

/-- Why and where a text is no document. -/
structure ParseError where
  reason : Reason
  position : Position
  deriving DecidableEq, Repr

def ParseError.message (error : ParseError) : String :=
  error.position.message error.reason.message

/-- Strict reading with the position of a fault. -/
def readStrict (text : List Char) : Except ParseError Value :=
  (Strict.read text).mapError fun fault => ⟨fault.reason, fault.position text⟩

def parse (text : String) : Except ParseError Value :=
  match readRelaxed text.toList with
  | some value => .ok value
  | none => readStrict text.toList

end PermissionRules.Document
