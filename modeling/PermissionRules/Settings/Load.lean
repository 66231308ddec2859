import PermissionRules.Document.Parse
import PermissionRules.Document.Printer
import PermissionRules.Files.Store
import PermissionRules.Settings.Target

/-! Loading targets and saving documents. Whoever loads sees of the files only what each path shows,
so that loading cannot change them. -/
namespace PermissionRules.Settings
open Files Document

/-- Why a target does not load. -/
inductive LoadFault where
  | file (fault : Files.Fault)
  | document (error : ParseError)
  deriving DecidableEq, Repr

def LoadFault.message : LoadFault → String
  | file fault => fault.message
  | document error => error.message

/-- What a path shows to someone who looks: whether anything is there, and the content of the file. -/
structure Sight where
  present : Bool
  content : Except Files.Fault ByteArray

def sightOf (store : Store) (path : Path) : Sight where
  present := (store.exists? path).toOption.getD false
  content := store.read path

def parseDocument (text : String) : Except LoadFault Value :=
  (Document.parse text).mapError .document

def decode (content : ByteArray) : Except LoadFault Value :=
  match String.fromUTF8? content with
  | some text => parseDocument text
  | none => .error (.file .notText)

def Sight.document (sight : Sight) : Except LoadFault Value :=
  match sight.content with
  | .ok content => decode content
  | .error fault => .error (.file fault)

def Target.load (look : Path → Sight) : Target → Except LoadFault Value
  | file path _ => (look path).document
  | inline text => parseDocument text

def saveDocument (store : Store) (path : Path) (document : Value) :
    Except Files.Fault Unit × Store :=
  store.save path document.prettyFile.toUTF8

/-- The locations at which something is present, as targets. -/
def present (look : Path → Sight) (locations : List (Scope × Path)) : List Target :=
  (locations.filter fun (_, path) => (look path).present).map fun (scope, path) =>
    .file path (some scope)

end PermissionRules.Settings
