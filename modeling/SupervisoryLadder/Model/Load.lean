import SupervisoryLadder.Files.SystemError
import SupervisoryLadder.Model.Reader

/-!
# Control systems from model texts

A model text is read into a document, and the names of the document are resolved.
-/

namespace SupervisoryLadder.Model

/-- Why there is no control system. -/
inductive LoadError where
  | unreadable (path : String) (reason : Files.SystemError)
  | malformed (fault : Fault)
  | unknownEvent (reference : UnknownEvent)
  deriving DecidableEq

/-- The text of an error. -/
def LoadError.message : LoadError → String
  | unreadable path reason => "Unable to read model file " ++ path ++ ": " ++ reason.message
  | malformed fault => "Malformed model file: " ++ fault.message
  | unknownEvent reference =>
    "Automaton '" ++ reference.automaton ++ "' uses event '" ++ reference.event ++
      "' that is not in the event list"

/-- The control system of a model text. -/
def parse (text : String) : Except LoadError ControlSystem :=
  match Document.read text with
  | .error fault => .error (.malformed fault)
  | .ok document =>
    match document.resolve with
    | .error reference => .error (.unknownEvent reference)
    | .ok system => .ok system

/-- The records of reading a model text; a malformed text leaves none. -/
def parseRecords (text : String) : List Record :=
  match Document.read text with
  | .error _ => []
  | .ok document => document.resolutionRecords

end SupervisoryLadder.Model
