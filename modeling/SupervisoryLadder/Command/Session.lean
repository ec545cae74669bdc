import SupervisoryLadder.Command.Invocation
import SupervisoryLadder.Files.Publish

/-!
# Carrying out a command line

A session reads the command line, sets up the log and carries out the action. Its value is the exit
status: zero, one for an error of the program, two for a command line that cannot be carried out.
-/

namespace SupervisoryLadder.Command

open Files

/-- Why a session failed. -/
inductive SessionError where
  | verbosity (count : Nat)
  | logFile (path : String) (reason : SystemError)
  | generation (reason : GenerateError)
  deriving DecidableEq

/-- The text of an error. -/
def SessionError.message : SessionError → String
  | verbosity count => "Verbosity " ++ Nat.repr count ++ " is above the maximum of 4"
  | logFile path reason => "Unable to create log file " ++ path ++ ". " ++ reason.message
  | generation reason => reason.message

/-- The name and version that the program tells. -/
def versionText : String := "desladderc version 0.1.0\n"

/-- The usage of the program. -/
def usageText : String :=
  "Usage: desladderc [-v]... [-l PATH] generate MODEL -o PATH [--project-name NAME] " ++
    "[--pou-name NAME]\n       desladderc [-v]... [-l PATH] version\n" ++
    "       desladderc help [COMMAND]\n"

/-- What the program does, and its usage. -/
def helpText : String :=
  "Generates PLCopen ladder programs from supervisors and plant automata\n\n" ++ usageText

/-- Sets up the log. The verbosity is checked before a log file is made. -/
def startLog (invocation : Invocation) : Job (Except SessionError Unit) := do
  match Severity.ofRank? invocation.verbosity with
  | none => return .error (.verbosity invocation.verbosity)
  | some limit =>
    match invocation.logFile with
    | none =>
      Job.request (.logToConsole limit)
      Job.log [⟨.trace, "Logger verbosity " ++ limit.label⟩]
      return .ok ()
    | some path =>
      match ← Job.request (.logToFile path limit) with
      | .error reason => return .error (.logFile path reason)
      | .ok () =>
        Job.log [⟨.trace, "Logger verbosity " ++ limit.label⟩]
        return .ok ()

/-- The options of a project whose names may be given. -/
def projectOptions (projectName unitName : Option String) : Project.Options :=
  let standard : Project.Options := {}
  { standard with
    projectName := projectName.getD standard.projectName
    unitName := unitName.getD standard.unitName }

/-- Carries out an action. -/
def carryOut : Action → Job (Except SessionError Unit)
  | .generate model output projectName unitName => do
    match ← generateProject model output (projectOptions projectName unitName) with
    | .error reason => return .error (.generation reason)
    | .ok () => return .ok ()
  | .version => do
    Job.request (.print versionText)
    return .ok ()

/-- Carries out an invocation. -/
def carryOutInvocation (invocation : Invocation) : Job (Except SessionError Unit) := do
  match ← startLog invocation with
  | .error reason => return .error reason
  | .ok () => carryOut invocation.action

/-- A whole session, with its exit status. -/
def session (arguments : List String) : Job Nat := do
  match Invocation.read arguments with
  | .error .help =>
    Job.request (.print helpText)
    return 0
  | .error .usage =>
    Job.request (.printError usageText)
    return 2
  | .ok invocation =>
    match ← carryOutInvocation invocation with
    | .error reason =>
      Job.request (.printError ("Error: " ++ Text.quote reason.message))
      return 1
    | .ok () => return 0

end SupervisoryLadder.Command
