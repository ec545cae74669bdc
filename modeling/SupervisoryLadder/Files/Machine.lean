import SupervisoryLadder.Files.Job
import SupervisoryLadder.Files.Store

/-!
# Running jobs on a store

A machine is a store with a working directory, a clock and what a job has printed and logged. It may
refuse requests for reasons of its own, which is how failing media are described; a refused request
changes nothing.
-/

namespace SupervisoryLadder.Files

/-- Where log lines go. -/
inductive Sink where
  | nowhere
  | console (limit : Severity)
  | file (limit : Severity) (location : Location)
  deriving DecidableEq

/-- A machine that runs jobs. -/
structure Machine where
  store : Store
  /-- The working directory, as a location and as text. -/
  working : Location
  workingText : String
  now : Project.Timestamp
  /-- What stands for place and time in a log line. -/
  stamp : String := ""
  /-- The name that is drawn for a staging file. Any name can be drawn, also one that paths or links
  spell. -/
  stagingName : String := ".tmpXXXXXX"
  /-- The requests that fail for reasons outside the store. -/
  refuses : Request → Option SystemError := fun _ => none
  staging : Option Location := none
  sink : Sink := .nowhere
  journal : Array Record := #[]
  output : String := ""
  errors : String := ""

namespace Machine

/-- Appends text to the file at a location, if there is one. -/
def appendAt (store : Store) (location : Location) (text : String) : Store :=
  match store.get? location with
  | some (.file content mode) => store.set location (.file (content ++ text.toUTF8) mode)
  | _ => store

/-- Takes up a record: it is kept, and shown where the log goes. -/
def note (machine : Machine) (record : Record) : Machine :=
  let kept := { machine with journal := machine.journal.push record }
  match machine.sink with
  | .nowhere => kept
  | .console limit =>
    if record.passes limit then
      { kept with errors := machine.errors ++ record.line machine.stamp }
    else kept
  | .file limit location =>
    if record.passes limit then
      { kept with store := appendAt machine.store location (record.line machine.stamp) }
    else kept

/-- The path under which a staging file beside a path is made. -/
def stagingPath (machine : Machine) (path : String) : String :=
  Path.join (Path.join machine.workingText (Path.directory path)) machine.stagingName

/-- Makes an empty staging file in the directory of a path, which only its owner may use. It has the
drawn name, which must be new in that directory. Its whole path counts as too long or not. -/
def createStaging (machine : Machine) (path : String) :
    Except SystemError (Location × Store) := do
  Store.checkPath (machine.stagingPath path)
  let directory ← machine.store.locate machine.working (Path.directory path ++ "/.")
  let store ← machine.store.addNamed directory machine.stagingName (.file ByteArray.empty 0o600)
  return (directory ++ [machine.stagingName], store)

/-- Changes the staging file, if there is one. -/
def changeStaging (machine : Machine) (change : ByteArray → Nat → Entry) : Machine :=
  match machine.staging with
  | none => machine
  | some location =>
    match machine.store.get? location with
    | some (.file content mode) =>
      { machine with store := machine.store.set location (change content mode) }
    | _ => machine

/-- Moves the staging file to its own name. A log file that is replaced is lost for the log. -/
def renameStaging (machine : Machine) (path : String) : Except SystemError Machine := do
  let target ← machine.store.locateTarget machine.working path
  match machine.staging with
  | none => throw .noEntry
  | some location =>
    match machine.store.get? location with
    | none => throw .noEntry
    | some entry =>
      let sink := match machine.sink with
        | .file limit place => if place = target then .nowhere else .file limit place
        | other => other
      return { machine with
        store := (machine.store.erase location).set target entry
        staging := none
        sink := sink }

/-- Removes the staging file. -/
def dropStaging (machine : Machine) : Machine :=
  match machine.staging with
  | none => machine
  | some location => { machine with store := machine.store.erase location, staging := none }

/-- Answers a request. -/
def perform (machine : Machine) (request : Request) : request.Answer × Machine :=
  match request with
  | .readText path =>
    match machine.refuses (.readText path) with
    | some reason => (.error reason, machine)
    | none => (machine.store.readText machine.working path, machine)
  | .modeOf path =>
    match machine.refuses (.modeOf path) with
    | some reason => (.error reason, machine)
    | none => (machine.store.modeOf machine.working path, machine)
  | .createStaging path =>
    let fault := fun reason => StagingError.mk reason (machine.stagingPath path)
    match machine.refuses (.createStaging path) with
    | some reason => (.error (fault reason), machine)
    | none =>
      match machine.createStaging path with
      | .error reason => (.error (fault reason), machine)
      | .ok (location, store) =>
        (.ok (), { machine with store := store, staging := some location })
  | .writeStaging text =>
    match machine.refuses (.writeStaging text) with
    | some reason => (.error reason, machine)
    | none => (.ok (), machine.changeStaging fun _ mode => .file text.toUTF8 mode)
  | .setStagingMode mode =>
    match machine.refuses (.setStagingMode mode) with
    | some reason => (.error reason, machine)
    | none => (.ok (), machine.changeStaging fun content _ => .file content mode)
  | .syncStaging =>
    match machine.refuses .syncStaging with
    | some reason => (.error reason, machine)
    | none => (.ok (), machine)
  | .renameStaging path =>
    match machine.refuses (.renameStaging path) with
    | some reason => (.error reason, machine)
    | none =>
      match machine.renameStaging path with
      | .error reason => (.error reason, machine)
      | .ok renamed => (.ok (), renamed)
  | .dropStaging => ((), machine.dropStaging)
  | .currentTime => (machine.now, machine)
  | .logToConsole limit => ((), { machine with sink := .console limit })
  | .logToFile path limit =>
    match machine.refuses (.logToFile path limit) with
    | some reason => (.error reason, machine)
    | none =>
      match machine.store.locateFile linkLimit machine.working path with
      | .error reason => (.error reason, machine)
      | .ok location =>
        let mode := match machine.store.get? location with
          | some (.file _ mode) => mode
          | _ => newFileMode
        (.ok (), { machine with
          store := machine.store.set location (.file ByteArray.empty mode)
          sink := .file limit location })
  | .print text => ((), { machine with output := machine.output ++ text })
  | .printError line => ((), { machine with errors := machine.errors ++ line ++ "\n" })

end Machine

/-- Runs a job on a machine. -/
def Job.run {α : Type} : Job α → Machine → α × Machine
  | done value, machine => (value, machine)
  | note record rest, machine => rest.run (machine.note record)
  | ask request resume, machine =>
    let answered := machine.perform request
    (resume answered.1).run answered.2

end SupervisoryLadder.Files
