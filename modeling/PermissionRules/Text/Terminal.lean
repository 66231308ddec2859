/-! What a terminal shows of a text. Control characters are not shown, except those that move to another
place of the page, and neither are sequences, which begin with an escape character. -/
namespace PermissionRules.Text

def yellow : String := "\x1b[33m"
def red : String := "\x1b[31m"
def bold : String := "\x1b[1m"

/-- Ends every colour. -/
def plainColour : String := "\x1b[0m"

/-- Where in a sequence a text is read on. -/
inductive Sequence where
  | outside
  /-- After the escape character. -/
  | escape
  /-- After an escape and a mark, which announces another character. -/
  | marked
  /-- Among the parameters of a control sequence, which a letter ends. -/
  | parameters
  /-- At the beginning of a string for the device. -/
  | deviceEntry
  /-- Among the parameters of a string for the device. -/
  | deviceParameters
  /-- After a mark among the parameters of a string for the device. -/
  | deviceMarked
  /-- In a string, which its terminator or another sequence ends. -/
  | string
  /-- In a string for the system, which a bell or another sequence ends. -/
  | command
  deriving DecidableEq, Repr

def isEscape (c : Char) : Bool :=
  c == '\x1b'

/-- Ends a sequence of any kind. -/
def isCancel (c : Char) : Bool :=
  c == '\x18' || c == '\x1a'

/-- Controls with a place on the page: tabs, line feeds, form feeds and carriage returns. -/
def isPageControl (c : Char) : Bool :=
  c == '\t' || c == '\n' || c == '\x0c' || c == '\r'

def isControl (c : Char) : Bool :=
  c < ' ' || c == '\x7f'

/-- The byte of a string terminator, which is looked for in the encoding of characters. -/
def terminator : UInt8 := 0x9c

def holdsTerminator (c : Char) : Bool :=
  (String.utf8EncodeChar c).contains terminator

namespace Sequence

/-- The place after the character that follows an escape. -/
def begun (c : Char) : Sequence :=
  if c < '0' then marked
  else if c == '[' then parameters
  else if c == ']' then command
  else if c == 'P' then deviceEntry
  else if c == 'X' || c == '^' || c == '_' then string
  else outside

/-- Strings swallow every control that does not end them. -/
def isString : Sequence → Bool
  | deviceEntry | deviceParameters | deviceMarked | string | command => true
  | outside | escape | marked | parameters => false

/-- The place after a printing ASCII character. -/
def afterPrinting (c : Char) : Sequence → Sequence
  | outside => outside
  | escape => begun c
  | marked => if c < '0' then marked else outside
  | parameters => if c < '@' then parameters else outside
  | deviceEntry =>
    if c < '0' then deviceMarked else if c < '@' then deviceParameters else string
  | deviceParameters =>
    if c < '0' then deviceMarked else if c < '<' then deviceParameters else string
  | deviceMarked => if c < '0' then deviceMarked else string
  | string => string
  | command => command

/-- The place after a control that is not shown. -/
def afterControl (c : Char) (place : Sequence) : Sequence :=
  if isEscape c then escape
  else if isCancel c || (place = command && c == '\x07') then outside
  else place

/-- The place after a character outside ASCII, which only strings take notice of. -/
def afterWide (c : Char) (place : Sequence) : Sequence :=
  if place = string && holdsTerminator c then outside else place

/-- The place after a character that is not shown. -/
def after (c : Char) (place : Sequence) : Sequence :=
  if isControl c then place.afterControl c
  else if '\x7f' < c then place.afterWide c
  else place.afterPrinting c

end Sequence

/-- Whether a character is shown at a place. Page controls are shown within sequences too, which they
break off, though not in strings. -/
def isShown (place : Sequence) (c : Char) : Bool :=
  if isControl c then isPageControl c && !place.isString else place = .outside

/-- What is shown of a text that is read on from a place. -/
def visible : Sequence → List Char → List Char
  | _, [] => []
  | place, c :: rest =>
    if isShown place c then c :: visible .outside rest else visible (place.after c) rest

end PermissionRules.Text
