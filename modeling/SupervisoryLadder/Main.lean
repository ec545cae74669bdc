import Std.Time
import SupervisoryLadder.Command.Session

/-!
# The command on a real machine

The session is a job; here its requests are carried out by the system. The interface to the system
tells no file modes, so every document gets the mode of a new file, and it hands a finished file to
the system without waiting for the medium.
-/

namespace SupervisoryLadder.Command

open Files

/-- Where log lines of a real session go. -/
inductive Outlet where
  | nowhere
  | console (limit : Severity)
  | handle (limit : Severity) (file : IO.FS.Handle)

/-- What a real session holds open: its staging file with the path, and the outlet of its log. -/
structure Desk where
  staging : Option (IO.FS.Handle × String) := none
  outlet : Outlet := .nowhere

/-- The failure that an error of the system stands for. -/
def systemError : IO.Error → SystemError
  | .noFileOrDirectory .. => .noEntry
  | .permissionDenied _ 13 _ => .denied
  | .alreadyExists .. => .exists
  | .resourceBusy .. => .busy
  | .inappropriateType _ code _ => if code = 21 then .isDirectory else .notDirectory
  | .invalidArgument _ 22 _ => .invalidArgument
  | .invalidArgument _ 36 _ => .nameTooLong
  | .invalidArgument _ 40 _ => .tooManyLinks
  | error => .other (toString error)

/-- Runs an action of the system and gives its failure as a value. -/
def attempt {α : Type} (action : IO α) : IO (Except SystemError α) := do
  try
    return .ok (← action)
  catch error =>
    return .error (systemError error)

/-- The text of a file. -/
def readFileText (path : String) : IO (Except SystemError String) := do
  match ← attempt (IO.FS.readBinFile path) with
  | .error reason => return .error reason
  | .ok content =>
    match String.fromUTF8? content with
    | some text => return .ok text
    | none => return .error .notText

/-- The access rights of a mode. -/
def accessRights (mode : Nat) : IO.FileRight :=
  let right (bits : Nat) : IO.AccessRight :=
    ⟨bits / 4 % 2 == 1, bits / 2 % 2 == 1, bits % 2 == 1⟩
  ⟨right (mode / 64), right (mode / 8), right mode⟩

/-- Makes an empty staging file in a directory, which only its owner may use. The clock gives the
name. -/
def makeStaging (directory : String) : IO (Except StagingError (IO.FS.Handle × String)) := do
  let path := Path.join directory (".tmp" ++ Nat.repr (← IO.monoNanosNow))
  let made ← attempt do
    let file ← IO.FS.Handle.mk path .writeNew
    IO.setAccessRights path (accessRights 0o600)
    return file
  match made with
  | .ok file => return .ok (file, path)
  | .error reason => return .error ⟨reason, path⟩

/-- Makes a staging file. A name that is taken is tried again with a later reading of the clock,
this many times at most. -/
def makeFreshStaging (directory : String) :
    Nat → IO (Except StagingError (IO.FS.Handle × String))
  | 0 => makeStaging directory
  | attempts + 1 => do
    match ← makeStaging directory with
    | .error ⟨.exists, _⟩ => makeFreshStaging directory attempts
    | result => return result

/-- The time of the system. -/
def currentTime : IO Project.Timestamp := do
  let moment ← Std.Time.Timestamp.now
  let now := (Std.Time.DateTime.ofTimestampWithZone moment .UTC).toPlainDateTime
  return {
    year := now.date.year
    month := now.date.month.val.toNat
    day := now.date.day.val.toNat
    hour := now.time.hour.val.toNat
    minute := now.time.minute.val.toNat
    second := now.time.second.val.toNat
    nanosecond := now.time.nanosecond.val.toNat
    offsetHours := 0
    offsetMinutes := 0
    offsetSeconds := 0 }

/-- Shows a record where the log goes. -/
def showRecord (desk : IO.Ref Desk) (record : Record) : IO Unit := do
  let stamp := ((← currentTime).text).toOption.getD ""
  match (← desk.get).outlet with
  | .nowhere => return
  | .console limit => if record.passes limit then IO.eprint (record.line stamp)
  | .handle limit file =>
    if record.passes limit then
      file.putStr (record.line stamp)
      file.flush

/-- An action on the staging file. -/
def onStaging (desk : IO.Ref Desk) (action : IO.FS.Handle → String → IO Unit) :
    IO (Except SystemError Unit) := do
  match (← desk.get).staging with
  | none => return .error .noEntry
  | some (file, path) => attempt (action file path)

/-- Carries out a request. -/
def perform (desk : IO.Ref Desk) (request : Request) : IO request.Answer :=
  match request with
  | .readText path => readFileText path
  | .modeOf _ => return .error (.other "The mode of a file is not known")
  | .createStaging path => do
    match ← makeFreshStaging (Path.directory path) 1000 with
    | .error reason => return .error reason
    | .ok staged =>
      desk.modify fun held => { held with staging := some staged }
      return .ok ()
  | .writeStaging text => onStaging desk fun file _ => file.putStr text
  | .setStagingMode mode => onStaging desk fun _ path => IO.setAccessRights path (accessRights mode)
  | .syncStaging => onStaging desk fun file _ => file.flush
  | .renameStaging target => onStaging desk fun _ path => do
    IO.FS.rename path target
    desk.modify fun held => { held with staging := none }
  | .dropStaging => do
    let _ ← onStaging desk fun _ path => IO.FS.removeFile path
    desk.modify fun held => { held with staging := none }
  | .currentTime => currentTime
  | .logToConsole limit => desk.modify fun held => { held with outlet := .console limit }
  | .logToFile path limit => do
    match ← attempt (IO.FS.Handle.mk path .write) with
    | .error reason => return .error reason
    | .ok file =>
      desk.modify fun held => { held with outlet := .handle limit file }
      return .ok ()
  | .print text => IO.print text
  | .printError line => IO.eprintln line

/-- Runs a job on the system. -/
def runJob {α : Type} (desk : IO.Ref Desk) : Job α → IO α
  | .done value => pure value
  | .note record rest => do
    showRecord desk record
    runJob desk rest
  | .ask request resume => do
    let answer ← perform desk request
    runJob desk (resume answer)

end SupervisoryLadder.Command

/-- Carries out the command line and gives the exit status of the session. -/
def main (arguments : List String) : IO UInt32 := do
  let desk ← IO.mkRef ({} : SupervisoryLadder.Command.Desk)
  let status ← SupervisoryLadder.Command.runJob desk (SupervisoryLadder.Command.session arguments)
  return status.toUInt32
