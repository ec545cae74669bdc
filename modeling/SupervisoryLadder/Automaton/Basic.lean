import SupervisoryLadder.Automaton.Distinct

/-!
# Automata of a discrete-event control system

A state has a name and a marking, an event a name and a kind; both parts take part in equality. An
automaton lists its states and its alphabet by first appearance: the initial state, then the ends
of the transitions, then states that were declared besides. The fields of `Automaton` carry that
rule as proofs, so every automaton in the project has its initial state, all ends of its transitions
and all triggers among its states and events, and lists none of them twice.
-/

namespace SupervisoryLadder

/-- Whether a state is marked, that is, ends a completed task. -/
inductive Marking where
  | marked
  | unmarked
  deriving DecidableEq

/-- Whether a supervisor may forbid an event. -/
inductive Controllability where
  | controllable
  | uncontrollable
  deriving DecidableEq

/-- A state of an automaton. Two states are the same only when name and marking agree. -/
structure State where
  name : String
  marking : Marking := .unmarked
  deriving DecidableEq

/-- An event of the system. Two events are the same only when name and kind agree. -/
structure Event where
  name : String
  kind : Controllability
  deriving DecidableEq

/-- A step from one state to another on an event. -/
structure Transition where
  origin : State
  trigger : Event
  destination : State
  deriving DecidableEq

namespace Marking

/-- Marked from a flag. -/
def ofBool (flag : Bool) : Marking := if flag then .marked else .unmarked

/-- The place of a marking in the order of states of one name: marked first. -/
def rank : Marking → Nat
  | marked => 0
  | unmarked => 1

end Marking

namespace Controllability

/-- Controllable from a flag. -/
def ofBool (flag : Bool) : Controllability := if flag then .controllable else .uncontrollable

/-- The place of a kind in the order of events of one name: controllable first. -/
def rank : Controllability → Nat
  | controllable => 0
  | uncontrollable => 1

end Controllability

namespace State

/-- True for a marked state. -/
def isMarked (state : State) : Bool := state.marking == .marked

/-- The order of states: by name, and marked before unmarked within a name. Names compare by code
point, which is the order of their UTF-8 bytes. -/
def precedes (left right : State) : Bool :=
  left.name < right.name ||
    (left.name == right.name && left.marking.rank ≤ right.marking.rank)

/-- States in ascending order. -/
def sort (states : List State) : List State := states.mergeSort precedes

end State

namespace Event

/-- True for an event that a supervisor may forbid. -/
def isControllable (event : Event) : Bool := event.kind == .controllable

/-- The order of events: by name, and controllable before uncontrollable within a name. -/
def precedes (left right : Event) : Bool :=
  left.name < right.name ||
    (left.name == right.name && left.kind.rank ≤ right.kind.rank)

/-- Events in ascending order. -/
def sort (events : List Event) : List Event := events.mergeSort precedes

end Event

namespace Transition

/-- A self-loop changes no state: its ends agree in name and marking. -/
def isSelfLoop (transition : Transition) : Bool := transition.origin == transition.destination

/-- The ends of a transition, origin first. -/
def ends (transition : Transition) : List State := [transition.origin, transition.destination]

/-- The transition in arrow form, `origin --event--> destination`. -/
def describe (transition : Transition) : String :=
  transition.origin.name ++ " --" ++ transition.trigger.name ++ "--> " ++
    transition.destination.name

end Transition

/-- An automaton with its states and alphabet by first appearance. The proof fields say that nothing
is listed twice and that the lists begin with what the transitions mention, in their order. -/
@[ext]
structure Automaton where
  name : String
  initial : State
  transitions : List Transition
  states : List State
  events : List Event
  states_nodup : states.Nodup
  states_start : (initial :: transitions.flatMap Transition.ends).eraseDups <+: states
  events_nodup : events.Nodup
  events_start : (transitions.map Transition.trigger).eraseDups <+: events
  deriving DecidableEq

namespace Automaton

/-- The automaton of an initial state and transitions: only what these mention is listed. -/
def build (name : String) (initial : State) (transitions : List Transition) : Automaton where
  name := name
  initial := initial
  transitions := transitions
  states := (initial :: transitions.flatMap Transition.ends).eraseDups
  events := (transitions.map Transition.trigger).eraseDups
  states_nodup := Distinct.nodup_eraseDups _
  states_start := List.prefix_refl _
  events_nodup := Distinct.nodup_eraseDups _
  events_start := List.prefix_refl _

/-- Lists further states, each one only if it is not there yet. -/
def withStates (automaton : Automaton) (items : List State) : Automaton :=
  { automaton with
    states := (automaton.states ++ items).eraseDups
    states_nodup := Distinct.nodup_eraseDups _
    states_start :=
      automaton.states_start.trans (Distinct.start_of_extend automaton.states_nodup items) }

/-- Lists further events, each one only if it is not there yet. -/
def withEvents (automaton : Automaton) (items : List Event) : Automaton :=
  { automaton with
    events := (automaton.events ++ items).eraseDups
    events_nodup := Distinct.nodup_eraseDups _
    events_start :=
      automaton.events_start.trans (Distinct.start_of_extend automaton.events_nodup items) }

/-- The events of the alphabet that a supervisor may forbid, in order. -/
def controllableEvents (automaton : Automaton) : List Event :=
  automaton.events.filter Event.isControllable

/-- The transitions that change the state, in order. -/
def moves (automaton : Automaton) : List Transition :=
  automaton.transitions.filter (fun transition => !transition.isSelfLoop)

end Automaton

/-- A control system: what restricts, what is restricted, and the global list of events. -/
structure ControlSystem where
  supervisors : List Automaton
  plants : List Automaton
  events : List Event
  deriving DecidableEq

end SupervisoryLadder
