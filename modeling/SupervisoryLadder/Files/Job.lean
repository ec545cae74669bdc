import SupervisoryLadder.Files.SystemError
import SupervisoryLadder.Log
import SupervisoryLadder.Project.Timestamp

/-!
# Jobs

A job is a program that asks the machine it runs on for one thing at a time and goes on with the
answer. It can be run on a store that is a value, and on a real machine. A staging file is a file
under a fresh name that becomes visible under its own name only when it is complete; a job has at
most one.
-/

namespace SupervisoryLadder.Files

/-- What a job asks its machine for. -/
inductive Request where
  /-- The text of a file. -/
  | readText (path : String)
  /-- The mode of what a path leads to. -/
  | modeOf (path : String)
  /-- An empty staging file in the directory of a path. -/
  | createStaging (path : String)
  /-- The content of the staging file. -/
  | writeStaging (text : String)
  /-- The mode of the staging file. -/
  | setStagingMode (mode : Nat)
  /-- The staging file on the medium. -/
  | syncStaging
  /-- The staging file under its own name, in place of what is there. -/
  | renameStaging (path : String)
  /-- No staging file any more. -/
  | dropStaging
  /-- The time. -/
  | currentTime
  /-- Records of this severity and above on the console. -/
  | logToConsole (limit : Severity)
  /-- Records of this severity and above in an empty file. -/
  | logToFile (path : String) (limit : Severity)
  /-- Text on the output. -/
  | print (text : String)
  /-- A line among the errors. -/
  | printError (line : String)

/-- A staging file that could not be made: why, and under which path. -/
structure StagingError where
  reason : SystemError
  path : String
  deriving DecidableEq

/-- What the machine answers. -/
abbrev Request.Answer : Request → Type
  | readText _ => Except SystemError String
  | modeOf _ => Except SystemError Nat
  | createStaging _ => Except StagingError Unit
  | writeStaging _ | setStagingMode _ | syncStaging | renameStaging _ => Except SystemError Unit
  | logToFile _ _ => Except SystemError Unit
  | currentTime => Project.Timestamp
  | dropStaging | logToConsole _ | print _ | printError _ => Unit

/-- A program that logs, asks and ends with a value. -/
inductive Job (α : Type) where
  | done (value : α)
  | note (record : Record) (rest : Job α)
  | ask (request : Request) (resume : request.Answer → Job α)

namespace Job

variable {α β : Type}

/-- One job after another. -/
def bind : Job α → (α → Job β) → Job β
  | done value, next => next value
  | note record rest, next => note record (rest.bind next)
  | ask request resume, next => ask request fun answer => (resume answer).bind next

instance : Monad Job where
  pure := done
  bind := bind

/-- Asks for one thing. -/
def request (request : Request) : Job request.Answer := ask request done

/-- Logs records in order. -/
def log : List Record → Job Unit
  | [] => done ()
  | record :: rest => note record (log rest)

end Job

end SupervisoryLadder.Files
