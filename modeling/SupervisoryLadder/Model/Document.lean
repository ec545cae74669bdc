import SupervisoryLadder.Automaton.Basic
import SupervisoryLadder.Log

/-!
# Model documents and the systems they describe

A model document lists the events of the system once, with their kinds, and automata that refer to
events and states by name. `Document.resolve` replaces the names by what they stand for. Of several
entries of one name the last one counts, for events as for states; a state without an entry is
unmarked, and a reference to an event without an entry is an error.
-/

namespace SupervisoryLadder.Model

/-- An event of the global list. -/
structure EventEntry where
  name : String
  controllable : Bool
  deriving DecidableEq

/-- A state whose marking is declared. -/
structure StateEntry where
  name : String
  marked : Bool
  deriving DecidableEq

/-- A transition by names. -/
structure TransitionEntry where
  origin : String
  trigger : String
  destination : String
  deriving DecidableEq

/-- An automaton by names. -/
structure AutomatonEntry where
  name : String
  initial : String
  states : List StateEntry
  events : List String
  transitions : List TransitionEntry
  deriving DecidableEq

/-- A whole model by names. -/
structure Document where
  events : List EventEntry
  supervisors : List AutomatonEntry
  plants : List AutomatonEntry
  deriving DecidableEq

/-- A reference of an automaton to an event that the global list does not have. -/
structure UnknownEvent where
  automaton : String
  event : String
  deriving DecidableEq

/-- The event of an entry. -/
def EventEntry.event (entry : EventEntry) : Event :=
  ⟨entry.name, Controllability.ofBool entry.controllable⟩

/-- The last event of a name. -/
def eventNamed? (events : List Event) (name : String) : Option Event :=
  (events.filter fun event => event.name == name).getLast?

namespace AutomatonEntry

/-- The event that the automaton refers to. -/
def lookUp (entry : AutomatonEntry) (events : List Event) (name : String) :
    Except UnknownEvent Event :=
  match eventNamed? events name with
  | some event => .ok event
  | none => .error ⟨entry.name, name⟩

/-- The marking of the last entry of a state; unmarked without one. -/
def marking (entry : AutomatonEntry) (name : String) : Marking :=
  match (entry.states.filter fun state => state.name == name).getLast? with
  | some state => Marking.ofBool state.marked
  | none => .unmarked

/-- The state of a name. -/
def state (entry : AutomatonEntry) (name : String) : State := ⟨name, entry.marking name⟩

/-- The transition of an entry. -/
def transition (entry : AutomatonEntry) (events : List Event) (step : TransitionEntry) :
    Except UnknownEvent Transition := do
  let trigger ← entry.lookUp events step.trigger
  return ⟨entry.state step.origin, trigger, entry.state step.destination⟩

/-- The automaton that the entry describes. Triggers are looked up before the listed events. -/
def resolve (entry : AutomatonEntry) (events : List Event) : Except UnknownEvent Automaton := do
  let transitions ← entry.transitions.mapM (entry.transition events)
  let alphabet ← entry.events.mapM (entry.lookUp events)
  return ((Automaton.build entry.name (entry.state entry.initial) transitions).withStates
    (entry.states.map fun state => entry.state state.name)).withEvents alphabet

/-- True when all references of the entry are to known events. -/
def resolves (entry : AutomatonEntry) (events : List Event) : Bool :=
  match entry.resolve events with
  | .ok _ => true
  | .error _ => false

end AutomatonEntry

namespace Document

/-- The global list of events. -/
def eventList (document : Document) : List Event := document.events.map EventEntry.event

/-- The control system that the document describes, or the first reference to an unknown event.
Supervisors come before plants. -/
def resolve (document : Document) : Except UnknownEvent ControlSystem := do
  let supervisors ← document.supervisors.mapM fun entry => entry.resolve document.eventList
  let plants ← document.plants.mapM fun entry => entry.resolve document.eventList
  return ⟨supervisors, plants, document.eventList⟩

/-- The automata whose resolution is tried: up to the first that fails, which is tried too. -/
def tried (events : List Event) : List AutomatonEntry → List AutomatonEntry
  | [] => []
  | entry :: rest => if entry.resolves events then entry :: tried events rest else [entry]

/-- The records of a resolution: each automaton that is tried, and the totals at the end. -/
def resolutionRecords (document : Document) : List Record :=
  (tried document.eventList (document.supervisors ++ document.plants)).map
      (fun entry => ⟨.trace, "Building automaton " ++ entry.name⟩) ++
    match document.resolve with
    | .ok system =>
      [⟨.debug, "Decoded model with " ++ Nat.repr system.supervisors.length ++ " supervisors, " ++
        Nat.repr system.plants.length ++ " plants and " ++ Nat.repr system.events.length ++
        " events"⟩]
    | .error _ => []

end Document

end SupervisoryLadder.Model
