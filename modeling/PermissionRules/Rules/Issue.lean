import PermissionRules.Document.Printer
import PermissionRules.Pattern.Migration
import PermissionRules.Rules.Lists

/-! Issues of a document: the entries of its rule lists that are no valid patterns. -/
namespace PermissionRules.Rules
open Document

/-- Why an entry is refused. -/
inductive EntryFault where
  | notText
  | pattern (fault : Pattern.Fault)
  deriving DecidableEq, Repr

def EntryFault.message : EntryFault → String
  | notText => "Pattern is not a string"
  | pattern fault => fault.message

/-- An entry that is refused. An entry other than a string is shown as its compact text. -/
structure Issue where
  pattern : String
  category : Category
  fault : EntryFault
  suggestion : Option String
  deriving DecidableEq, Repr

def issue? (category : Category) (entry : Value) : Option Issue :=
  match entry.string? with
  | none => some ⟨entry.compact, category, .notText, none⟩
  | some pattern =>
    (Pattern.fault? pattern).map fun fault =>
      ⟨pattern, category, .pattern fault, Pattern.migrate? pattern⟩

def issues (document : Value) : List Issue :=
  (Lists.ofDocument document).entries.filterMap fun (category, entry) => issue? category entry

def isClean (document : Value) : Bool :=
  (issues document).isEmpty

end PermissionRules.Rules
