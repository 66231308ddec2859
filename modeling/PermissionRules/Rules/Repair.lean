import PermissionRules.Rules.Issue

/-! Repairing a document: valid patterns stay, deprecated ones are migrated in their place, and every
other entry is dropped. The three rule lists are put back, and nothing else of the document changes. -/
namespace PermissionRules.Rules
open Document

/-- A pattern that a repair migrates. -/
structure Migration where
  pattern : String
  migrated : String
  category : Category
  deriving DecidableEq, Repr

/-- An entry that a repair drops. -/
structure Removal where
  pattern : String
  category : Category
  fault : EntryFault
  deriving DecidableEq, Repr

/-- What becomes of an entry. -/
inductive Verdict where
  | keep (pattern : String)
  | migrate (pattern migrated : String)
  | drop (pattern : String) (fault : EntryFault)
  deriving DecidableEq, Repr

namespace Verdict

/-- What a pattern migrates to is only used if it is valid itself. -/
def ofPattern (pattern : String) : Verdict :=
  match Pattern.fault? pattern with
  | none => keep pattern
  | some fault =>
    match (Pattern.migrate? pattern).filter Pattern.isValid with
    | some migrated => migrate pattern migrated
    | none => drop pattern (.pattern fault)

def ofEntry (entry : Value) : Verdict :=
  match entry.string? with
  | some pattern => ofPattern pattern
  | none => drop entry.compact .notText

/-- The pattern that stands in the repaired list. -/
def survivor? : Verdict → Option String
  | keep pattern => some pattern
  | migrate _ migrated => some migrated
  | drop _ _ => none

def migration? (category : Category) : Verdict → Option Migration
  | migrate pattern migrated => some ⟨pattern, migrated, category⟩
  | _ => none

def removal? (category : Category) : Verdict → Option Removal
  | drop pattern fault => some ⟨pattern, category, fault⟩
  | _ => none

end Verdict

structure Repair where
  migrated : List Migration
  removed : List Removal
  document : Value
  deriving DecidableEq, Repr

def Repair.hasChanges (repair : Repair) : Bool :=
  !repair.migrated.isEmpty || !repair.removed.isEmpty

/-- The repaired list of a category. -/
def survivors (entries : List Value) : List Value :=
  entries.filterMap fun entry => (Verdict.ofEntry entry).survivor?.map Value.string

def repairedPermissions (lists : Lists) (permissions : Ordered String Value) :
    Ordered String Value :=
  Category.all.foldl
    (fun permissions category =>
      permissions.put category.key (.array (survivors (lists.get category))))
    permissions

/-- The document with its lists repaired. A document, or permissions, of another type than an object
give way to an object. -/
def repairedDocument (document : Value) : Value :=
  let root := document.object?.getD []
  let permissions := ((document.get? permissionsKey).bind Value.object?).getD []
  .object (Ordered.put root permissionsKey
    (.object (repairedPermissions (.ofDocument document) permissions)))

def repair (document : Value) : Repair :=
  let entries := (Lists.ofDocument document).entries
  { migrated := entries.filterMap fun (category, entry) =>
      (Verdict.ofEntry entry).migration? category
    removed := entries.filterMap fun (category, entry) =>
      (Verdict.ofEntry entry).removal? category
    document := repairedDocument document }

end PermissionRules.Rules
