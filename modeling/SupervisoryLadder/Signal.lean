import SupervisoryLadder.Automaton.Basic

/-!
# Signals of the controller and their variables

Everything that the controller remembers, senses or drives is a Boolean variable. A signal says what
the variable stands for, and `Signal.variableName` gives its name in the program. Composite states
carry the bar between their parts; variable names replace it by the delimiter.
-/

namespace SupervisoryLadder

/-- What a variable of the program stands for. -/
inductive Signal where
  /-- The supervisor at this place in the list is in this state. -/
  | supervisorState (index : Nat) (state : State)
  /-- The plant of this name is in this state. -/
  | plantState (plant : String) (state : State)
  /-- The event occurs. -/
  | occurrence (event : Event)
  /-- The controller commands the event. -/
  | petition (event : Event)
  /-- Some supervisor forbids the event. -/
  | disablement (event : Event)
  /-- The request to enter the initial states. -/
  | start
  deriving DecidableEq

namespace Signal

/-- The character between the parts of a composite state's name. -/
def separator : Char := '|'

/-- The character between the parts of a variable's name. -/
def delimiter : Char := '_'

/-- The variable of the start request. -/
def startName : String := "START"

/-- A state's name as it may stand in a variable: every separator becomes a delimiter. -/
def sanitize (name : String) : String :=
  String.ofList (name.toList.map fun character =>
    if character = separator then delimiter else character)

/-- A supervisor's number, of two digits at least. -/
def numeral (index : Nat) : String :=
  if index < 10 then "0" ++ Nat.repr index else Nat.repr index

/-- Two parts of a variable's name with the delimiter between them. -/
def join (first second : String) : String := first ++ String.singleton delimiter ++ second

/-- The variable of a signal. Only state names are sanitized. -/
def variableName : Signal → String
  | supervisorState index state => join ("s" ++ numeral index) (sanitize state.name)
  | plantState plant state => join plant (sanitize state.name)
  | occurrence event => event.name
  | petition event => join "p" event.name
  | disablement event => join "d" event.name
  | start => startName

end Signal

end SupervisoryLadder
