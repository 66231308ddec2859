import PermissionRules.Report.Checks
import PermissionRules.Report.Fixes
import PermissionRules.Report.Patterns
import PermissionRules.Run.Loading

/-! What a command will do, decided before anything is done: the notices and the files to save, in
order, and the report at the end. -/
namespace PermissionRules.Run
open CommandLine Document Files Report Rules Settings

/-- How a run ends that has a report. -/
inductive Status where
  | clean
  | findings
  deriving DecidableEq, Repr

def Status.exitCode : Status → Nat
  | clean => 0
  | findings => 1

/-- The exit code of a run without a report. -/
def errorCode : Nat := 2

inductive Step where
  | notify (notice : Notice)
  | save (path : Path) (document : Value)
  deriving DecidableEq, Repr

structure Ending where
  report : String
  status : Status
  deriving DecidableEq, Repr

structure Plan where
  steps : List Step
  ending : Except RunError Ending

def Status.ofValid (valid : Bool) : Status :=
  if valid then .clean else .findings

def validate (format : Format) (patterns : List String) : Plan :=
  let checks := patterns.map PatternCheck.ofPattern
  { steps := []
    ending := .ok ⟨Report.patterns format checks, .ofValid (checks.all (·.isValid))⟩ }

/-- Why a pattern is not migrated. -/
def unmigratedNotice (pattern : String) : Notice :=
  match Pattern.fault? pattern with
  | none => .alreadyValid pattern
  | some fault => .noMigration pattern fault

def migrate (format : Format) (pattern : String) : Plan :=
  let migrated := Pattern.migrate? pattern
  { steps :=
      if migrated.isNone && format = .text then [.notify (unmigratedNotice pattern)] else []
    ending := .ok ⟨Report.migration format pattern migrated, .ofValid migrated.isSome⟩ }

namespace Loading

def notices (loading : Loading) : List Step :=
  loading.skipped.map fun skipped => .notify (.skipped skipped.target skipped.fault)

/-- The plan for what was loaded, after the notices of what was not. -/
def andThen (loading : Loading) (plan : List Loaded → Plan) : Plan :=
  match loading.result with
  | .error error => ⟨loading.notices, .error error⟩
  | .ok loaded => ⟨loading.notices ++ (plan loaded).steps, (plan loaded).ending⟩

end Loading

namespace Loaded

def check (loaded : Loaded) : DocumentCheck :=
  .ofDocument loaded.target.display loaded.document

/-- The file to which the repaired document goes, if it goes to any. -/
def savedTo? (write : Bool) (loaded : Loaded) : Option Path :=
  if write && (repair loaded.document).hasChanges then loaded.target.path? else none

def fix (write : Bool) (loaded : Loaded) : DocumentFix :=
  let repair := repair loaded.document
  { source := loaded.target.display
    migrated := repair.migrated
    removed := repair.removed
    written := (loaded.savedTo? write).isSome
    settings := if loaded.target.path?.isNone then some repair.document else none }

def changeNotices (loaded : Loaded) : List Notice :=
  let repair := repair loaded.document
  repair.migrated.map (.migrated loaded.target) ++ repair.removed.map (.removed loaded.target)

def fixSteps (write : Bool) (loaded : Loaded) : List Step :=
  match loaded.savedTo? write with
  | some path =>
    loaded.changeNotices.map .notify ++ [.save path (repair loaded.document).document]
  | none => []

end Loaded

def check (format : Format) (loaded : List Loaded) : Plan :=
  let documents := loaded.map Loaded.check
  { steps := []
    ending := .ok ⟨Report.checks format documents, .ofValid (documents.all (·.valid))⟩ }

def fix (format : Format) (write : Bool) (loaded : List Loaded) : Plan :=
  { steps := loaded.flatMap (Loaded.fixSteps write)
    ending := .ok ⟨Report.fixes format (loaded.map (Loaded.fix write)), .clean⟩ }

/-- The plan of an invocation, from what its paths show. -/
def plan (look : Path → Sight) (environment : Environment) (invocation : Invocation) : Plan :=
  match invocation.command with
  | .validate patterns => validate invocation.format patterns
  | .migrate pattern => migrate invocation.format pattern
  | .check selection => (load look environment selection).andThen (check invocation.format)
  | .fix selection write => (load look environment selection).andThen (fix invocation.format write)

end PermissionRules.Run
