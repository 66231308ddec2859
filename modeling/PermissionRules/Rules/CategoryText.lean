import PermissionRules.Document.Printer
import PermissionRules.Document.Strict
import PermissionRules.Rules.Category
import PermissionRules.Text.Invisible

/-! Categories in strict document text: the name as a string, or an object whose only key is the name
and whose value is null. -/
namespace PermissionRules.Rules
open Document Strict

inductive CategoryReason where
  | malformed (reason : Reason)
  | unknown (name : String)
  /-- A value other than null under the name. -/
  | unexpected (found : String)
  deriving DecidableEq, Repr

def CategoryReason.message : CategoryReason → String
  | malformed reason => reason.message
  | unknown name =>
    "unknown variant `" ++ name ++ "`, expected one of " ++
      ", ".intercalate (Category.all.map fun category => "`" ++ category.key ++ "`")
  | unexpected found => "invalid type: " ++ found ++ ", expected unit"

namespace Category

abbrev Result (α : Type) := Except (Fault CategoryReason) α

def ofStrict {α : Type} (result : Strict.Result α) : Result α :=
  result.mapError fun fault => ⟨.malformed fault.reason, fault.rest, fault.ahead⟩

def named (name : List Char) (rest : List Char) : Result (Category × List Char) :=
  match ofKey? (.ofList name) with
  | some category => .ok (category, rest)
  | none => .error ⟨.unknown (.ofList name), rest, 0⟩

/-- How an unexpected string is shown. -/
def shown (text : List Char) : List Char :=
  '"' :: text.flatMap (fun c =>
    match c with
    | '"' => ['\\', '"']
    | '\\' => ['\\', '\\']
    | '\n' => ['\\', 'n']
    | '\r' => ['\\', 'r']
    | '\t' => ['\\', 't']
    | '\x00' => ['\\', '0']
    | c =>
      if Text.isInvisible c then
        ['\\', 'u', '{'] ++ Nat.toDigits 16 c.toNat ++ ['}']
      else [c]) ++ ['"']

def describe : Value → List Char
  | .null => ['n', 'u', 'l', 'l']
  | .bool b => "boolean `".toList ++ (Value.bool b).write .compact 0 ['`']
  | .integer n => "integer `".toList ++ (Value.integer n).write .compact 0 ['`']
  | .double x => "floating point `".toList ++ (Value.double x).write .compact 0 ['`']
  | .string text => "string ".toList ++ shown text.toList
  | .array _ => "sequence".toList
  | .object _ => "map".toList

/-- Names what stands in the place of null. A container is named at its bracket, any other value after
it. -/
def refuse {α : Type} (text : List Char) : Result α :=
  let unexpected (value : Value) (rest : List Char) : Result α :=
    .error ⟨.unexpected (.ofList (describe value)), rest, 0⟩
  match text with
  | '[' :: _ => unexpected (.array []) text
  | '{' :: _ => unexpected (.object []) text
  | _ =>
    match ofStrict (Strict.begin [] text) with
    | .ok (.complete value _, rest) => unexpected value rest
    | .ok (_, rest) => .error ⟨.malformed .expectedValue, rest, 0⟩
    | .error fault => .error fault

/-- The content of a category written as an object. -/
def readUnit (text : List Char) : Result (List Char) :=
  match skipBlanks text with
  | [] => ofStrict (here .unfinishedValue [])
  | 'n' :: rest => ofStrict (readName ['u', 'l', 'l'] rest)
  | text => refuse text

/-- The name of a category written as an object, which may not be empty. -/
def readKey (text : List Char) : Result (Category × List Char) :=
  match skipBlanks text with
  | [] => ofStrict (here .unfinishedObject [])
  | '"' :: rest => do
    let (name, rest) ← ofStrict (readString rest)
    named name rest
  | '}' :: rest => ofStrict (next .expectedValue ('}' :: rest))
  | text => ofStrict (next .keyNotString text)

def readObject (text : List Char) : Result (Category × List Char) := do
  let (category, rest) ← readKey text
  match skipBlanks rest with
  | ':' :: rest =>
    let rest ← readUnit rest
    match skipBlanks rest with
    | '}' :: rest => .ok (category, rest)
    | [] => ofStrict (here .unfinishedObject [])
    | rest => ofStrict (here .expectedValue rest)
  | [] => ofStrict (here .unfinishedObject [])
  | rest => ofStrict (next .expectedColon rest)

def readCategory (text : List Char) : Result Category := do
  let (category, rest) ← match skipBlanks text with
    | [] => ofStrict (here .unfinishedValue [])
    | '"' :: rest => do
      let (name, rest) ← ofStrict (readString rest)
      named name rest
    | '{' :: rest => readObject rest
    | text => ofStrict (next .expectedValue text)
  match skipBlanks rest with
  | [] => .ok category
  | rest => ofStrict (next .trailingCharacters rest)

/-- The category that a whole text names, or why and where it names none. -/
def ofText (text : String) : Except (CategoryReason × Position) Category :=
  (readCategory text.toList).mapError fun fault => (fault.reason, fault.position text.toList)

end Category
end PermissionRules.Rules
