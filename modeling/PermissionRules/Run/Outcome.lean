import PermissionRules.Run.Plan

/-! Carrying out a plan on a store. -/
namespace PermissionRules.Run
open CommandLine Files Report Settings

structure Outcome where
  notices : List Notice
  result : Except RunError Ending
  store : Store

/-- Takes the steps of a plan in order. A file that cannot be saved ends the run. -/
def perform (store : Store) (ending : Except RunError Ending) : List Step → Outcome
  | [] => ⟨[], ending, store⟩
  | .notify notice :: steps =>
    let outcome := perform store ending steps
    { outcome with notices := notice :: outcome.notices }
  | .save path document :: steps =>
    match saveDocument store path document with
    | (.error fault, store) => ⟨[], .error (.write path fault), store⟩
    | (.ok (), store) => perform store ending steps

def run (store : Store) (environment : Environment) (invocation : Invocation) : Outcome :=
  let plan := plan (sightOf store) environment invocation
  perform store plan.ending plan.steps

namespace Outcome

def exitCode (outcome : Outcome) : Nat :=
  match outcome.result with
  | .ok ending => ending.status.exitCode
  | .error _ => errorCode

def output (outcome : Outcome) : String :=
  match outcome.result with
  | .ok ending => ending.report
  | .error _ => ""

/-- All notices, with that of the error that ended the run. -/
def allNotices (outcome : Outcome) : List Notice :=
  match outcome.result with
  | .ok _ => outcome.notices
  | .error error => outcome.notices ++ [.failed error]

def diagnostics (terminal : Bool) (outcome : Outcome) : String :=
  String.join (outcome.allNotices.map (·.render terminal))

end Outcome
end PermissionRules.Run
