import SupervisoryLadder.Files.Job
import SupervisoryLadder.Files.Path
import SupervisoryLadder.Files.Store
import SupervisoryLadder.Ladder.Report
import SupervisoryLadder.Model.Load
import SupervisoryLadder.Project.Export

/-!
# Loading models and publishing projects

A project document is completed in a staging file next to its path and then renamed, so that the
path holds either what it held before or the whole document. A document that replaces a file takes
over the file's mode.
-/

namespace SupervisoryLadder.Files

/-- Why a project was not published. -/
inductive ExportError where
  | unserializable (reason : Project.TimestampError)
  | invalidPath (path : String)
  | unstaged (reason : StagingError)
  | failed (reason : SystemError)
  deriving DecidableEq

/-- The text of an error. -/
def ExportError.message : ExportError → String
  | unserializable reason => "Serialization failed: " ++ reason.message
  | invalidPath path => "Invalid output path: " ++ path
  | unstaged reason =>
    "IO error: " ++ reason.reason.message ++ " at path " ++ Text.quote reason.path
  | failed reason => "IO error: " ++ reason.message

/-- Reads a control system from a model file. -/
def loadModel (path : String) : Job (Except Model.LoadError ControlSystem) := do
  Job.log [⟨.debug, "Loading model file " ++ path⟩]
  match ← Job.request (.readText path) with
  | .error reason => return .error (.unreadable path reason)
  | .ok text =>
    Job.log (Model.parseRecords text)
    return Model.parse text

/-- Gives the staging file its mode and moves it to the path. -/
def settleStaging (path : String) (mode : Nat) : Job (Except SystemError Unit) := do
  match ← Job.request (.setStagingMode mode) with
  | .error reason => return .error reason
  | .ok () =>
    match ← Job.request .syncStaging with
    | .error reason => return .error reason
    | .ok () => Job.request (.renameStaging path)

/-- Completes the staging file and moves it to the path. The mode is asked for when the staging file
is already there. -/
def completeStaging (text path : String) : Job (Except SystemError Unit) := do
  match ← Job.request (.writeStaging text) with
  | .error reason => return .error reason
  | .ok () =>
    let mode := match ← Job.request (.modeOf path) with
      | .ok mode => mode
      | .error _ => newFileMode
    settleStaging path mode

/-- Puts a text at a path in one step. A staging file that is not completed is removed. -/
def replaceFile (text path : String) : Job (Except ExportError Unit) := do
  match ← Job.request (.createStaging path) with
  | .error reason => return .error (.unstaged reason)
  | .ok () =>
    match ← completeStaging text path with
    | .error reason =>
      Job.request .dropStaging
      return .error (.failed reason)
    | .ok () => return .ok ()

/-- Publishes the document of a program at a path. The document is rendered before the path is
looked at. -/
def publish (program : Ladder.Program) (options : Project.Options) (path : String) :
    Job (Except ExportError Unit) := do
  let now ← Job.request .currentTime
  Job.log (Project.renderRecords program options now)
  match Project.render program options now with
  | .error reason => return .error (.unserializable reason)
  | .ok text =>
    match Path.fileName? path with
    | none => return .error (.invalidPath path)
    | some _ =>
      match ← replaceFile text path with
      | .error reason => return .error reason
      | .ok () =>
        Job.log [⟨.info, "Wrote project to " ++ path⟩,
          ⟨.debug, "Project document is " ++ Nat.repr text.utf8ByteSize ++ " bytes"⟩]
        return .ok ()

/-- Why a model did not become a project. -/
inductive GenerateError where
  | unloaded (path : String) (reason : Model.LoadError)
  | unwritten (path : String) (reason : ExportError)
  deriving DecidableEq

/-- The text of an error. -/
def GenerateError.message : GenerateError → String
  | unloaded path reason => "Unable to load " ++ path ++ ": " ++ reason.message
  | unwritten path reason => "Unable to write " ++ path ++ ": " ++ reason.message

/-- Makes the project of a model file. -/
def generateProject (model output : String) (options : Project.Options) :
    Job (Except GenerateError Unit) := do
  match ← loadModel model with
  | .error reason => return .error (.unloaded model reason)
  | .ok system =>
    Job.log [⟨.info, "Loaded " ++ Nat.repr system.supervisors.length ++ " supervisors, " ++
      Nat.repr system.plants.length ++ " plants and " ++ Nat.repr system.events.length ++
      " events from " ++ model⟩]
    Job.log (Ladder.generationRecords system)
    match ← publish (Ladder.generate system) options output with
    | .error reason => return .error (.unwritten output reason)
    | .ok () => return .ok ()

end SupervisoryLadder.Files
