import PermissionRules.CommandLine.Reader
import PermissionRules.Run.Outcome

/-! The command line. It shows the paths of an invocation to the planner and carries out the plan on
the files of the system. -/
open PermissionRules PermissionRules.CommandLine PermissionRules.Files PermissionRules.Run
open PermissionRules.Settings

namespace PermissionRules.Main

/-- The fault that an error of the system stands for. -/
def faultOf : IO.Error → Files.Fault
  | .noFileOrDirectory .. => .notFound
  | .inappropriateType _ 20 _ => .notADirectory
  | .inappropriateType _ 21 _ => .isADirectory
  | .invalidArgument _ 36 _ => .nameTooLong
  | .permissionDenied _ code details => .other (details ++ " (os error " ++ toString code ++ ")")
  | error => .other (toString error)

/-- Whether something is there although, or because, reading it ended with a fault. -/
def leadsAnywhere : Files.Fault → Bool
  | .notFound | .notADirectory | .nameTooLong | .nulInName => false
  | _ => true

def sightOfPath (path : Path) : IO Sight := do
  try
    let content ← IO.FS.readBinFile path
    return ⟨true, .ok content⟩
  catch error =>
    let fault := faultOf error
    return ⟨leadsAnywhere fault, .error fault⟩

/-- What the paths of an invocation show; any other path shows nothing. -/
def lookAt (paths : List Path) : IO (Path → Sight) := do
  let sights ← paths.mapM fun path => return (path, ← sightOfPath path)
  return fun path => (Ordered.get? sights path).getD ⟨false, .error .notFound⟩

def environment : IO Environment := do
  return {
    home := ← IO.getEnv "HOME"
    configDirectory := ← IO.getEnv "CLAUDE_CONFIG_DIR"
    workingDirectory := (← IO.currentDir).toString }

def report (notice : Notice) : IO Unit := do
  let stream ← IO.getStderr
  stream.putStr (notice.render (← stream.isTty))

def save (path : Path) (content : String) : IO Unit := do
  match (Path.parent? path).filter (!·.isEmpty) with
  | some parent => IO.FS.createDirAll parent
  | none => pure ()
  IO.FS.writeFile path content

def perform : List Step → IO (Option RunError)
  | [] => return none
  | .notify notice :: steps => do
    report notice
    perform steps
  | .save path document :: steps => do
    try
      save path document.prettyFile
    catch error =>
      return some (.write path (faultOf error))
    perform steps

def fail (error : RunError) : IO UInt32 := do
  report (.failed error)
  return errorCode.toUInt32

def runInvocation (invocation : Invocation) : IO UInt32 := do
  let environment ← environment
  let paths := match invocation.command with
    | .check selection | .fix selection _ => lookedAt environment selection
    | .validate _ | .migrate _ => []
  let plan := plan (← lookAt paths) environment invocation
  match ← perform plan.steps, plan.ending with
  | some error, _ | none, .error error => fail error
  | none, .ok ending =>
    try
      IO.print ending.report
      return ending.status.exitCode.toUInt32
    catch error =>
      fail (.output (faultOf error))

end PermissionRules.Main

def main (arguments : List String) : IO UInt32 := do
  match read arguments with
  | .ok invocation => Main.runInvocation invocation
  | .error (.help topic) =>
    IO.print (helpText topic)
    return 0
  | .error .version =>
    IO.print versionText
    return 0
  | .error (.fault .noArguments) =>
    IO.eprint (helpText (.level .program))
    return errorCode.toUInt32
  | .error (.fault fault) =>
    IO.eprintln fault.message
    return errorCode.toUInt32
