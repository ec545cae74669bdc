import SupervisoryLadder.Disablement
import SupervisoryLadder.Ladder.Rung

/-!
# From a control system to a ladder program

The program has four sections. The supervisors follow the events of the last scan, the disablement
flags are recomputed from the supervisors' states, the plants take at most one step, and the start
request enters the initial states. Self-loops change nothing and get no rung.
-/

namespace SupervisoryLadder.Ladder

/-- The pairs of different states that some transition joins, by first appearance. -/
def movePairs (automaton : Automaton) : List (State × State) :=
  (automaton.moves.map fun transition => (transition.origin, transition.destination)).eraseDups

/-- The events on which the automaton moves from one state to the other, by first appearance. -/
def moveEvents (automaton : Automaton) (origin destination : State) : List Event :=
  ((automaton.moves.filter fun transition =>
    transition.origin == origin && transition.destination == destination).map
      Transition.trigger).eraseDups

/-- The rungs of one supervisor: one for each pair of states it moves between. -/
def supervisorRungs (index : Nat) (supervisor : Automaton) : List Rung :=
  (movePairs supervisor).map fun pair =>
    Rung.supervisorMove index pair.1 pair.2 (moveEvents supervisor pair.1 pair.2)

/-- Keeps of events with the same name only the first. -/
def firstOfName : List Event → List Event
  | [] => []
  | event :: rest => event :: (firstOfName rest).filter fun other => other.name != event.name

/-- The controllable events of the system, one for each name: those of the global list first, then
those of the supervisors' and of the plants' alphabets. -/
def flaggedEvents (system : ControlSystem) : List Event :=
  firstOfName
    ((system.events ++ (system.supervisors ++ system.plants).flatMap Automaton.events).filter
      Event.isControllable)

/-- The order of a plant's rungs: by name of the origin, and within it what is sensed before what is
commanded. -/
def plantPrecedes (left right : Transition) : Bool :=
  left.origin.name < right.origin.name ||
    (left.origin.name == right.origin.name &&
      (!left.trigger.isControllable || right.trigger.isControllable))

/-- The moves of a plant in the order of its rungs; ties keep the order of the model. -/
def orderedMoves (plant : Automaton) : List Transition := plant.moves.mergeSort plantPrecedes

/-- The rungs of one plant. -/
def plantRungs (plant : Automaton) : List Rung :=
  (orderedMoves plant).map (Rung.plantMove plant.name)

/-- The signals of all initial states, supervisors first. -/
def initialSignals (system : ControlSystem) : List Signal :=
  (system.supervisors.zipIdx.map fun entry => Signal.supervisorState entry.2 entry.1.initial) ++
    system.plants.map fun plant => Signal.plantState plant.name plant.initial

/-- The rungs of a section. -/
def sectionRungs (system : ControlSystem) : Section → List Rung
  | .supervisors => system.supervisors.zipIdx.flatMap fun entry => supervisorRungs entry.2 entry.1
  | .disablement =>
    let disablement := Disablement.ofSupervisors system.supervisors
    (flaggedEvents system).map fun event =>
      Rung.disablementFlag event (disablement.statesDisabling event.name)
  | .plants => system.plants.flatMap plantRungs
  | .procedures => [Rung.start (initialSignals system)]

/-- Sections with their elements, each behind its label, with consecutive ids from `base` on. -/
def layoutSections (system : ControlSystem) (base : Nat) :
    List Section → List (Section × List Element)
  | [] => []
  | place :: rest =>
    let elements := Rung.layout base ([.label place] :: sectionRungs system place)
    (place, elements) :: layoutSections system (base + elements.length) rest

/-- The sections of the program with their elements. -/
def sections (system : ControlSystem) : List (Section × List Element) :=
  layoutSections system (leftRailId + 1) Section.all

/-- The ladder program of a control system. -/
def generate (system : ControlSystem) : Program where
  elements :=
    ⟨leftRailId, .leftRail⟩ :: (sections system).flatMap Prod.snd ++ [⟨rightRailId, .rightRail⟩]

end SupervisoryLadder.Ladder
