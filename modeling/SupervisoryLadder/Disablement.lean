import SupervisoryLadder.Log
import SupervisoryLadder.NameSet
import SupervisoryLadder.Signal

/-!
# Which supervisor states forbid which events

A supervisor forbids a controllable event of its alphabet in every state that has no transition on
it. `Disablement` collects, for each such event, the variables of the states that forbid it. Events
and variables are in ascending order, so maps with the same content are the same value. An event
that no state forbids still has an entry.
-/

namespace SupervisoryLadder

/-- For each controllable event, the variables of the states that forbid it. -/
@[ext]
structure Disablement where
  entries : List (String × NameSet)
  ascending : (entries.map Prod.fst).Pairwise (· < ·)
  deriving DecidableEq

namespace Disablement

/-- No events are in order. -/
theorem ascending_nil :
    (([] : List (String × NameSet)).map Prod.fst).Pairwise (· < ·) := List.Pairwise.nil

/-- The map without events. -/
def empty : Disablement := ⟨[], ascending_nil⟩

/-- Adds variables to the entry of an event, which is made at its place when there is none. -/
def place (event : String) (names : NameSet) : List (String × NameSet) → List (String × NameSet)
  | [] => [(event, names)]
  | (key, known) :: rest =>
    if event < key then (event, names) :: (key, known) :: rest
    else if event = key then (key, known.union names) :: rest
    else (key, known) :: place event names rest

/-- The events with an entry are those from before and the one that was added to. The events are
placed just as names in a set are. -/
theorem events_place (event : String) (names : NameSet) (entries : List (String × NameSet)) :
    (place event names entries).map Prod.fst = NameSet.place event (entries.map Prod.fst) := by
  induction entries with
  | nil => rfl
  | cons head rest inductionHypothesis =>
    obtain ⟨key, known⟩ := head
    simp only [place, NameSet.place, List.map_cons]
    split
    · rfl
    · split
      · rfl
      · rw [List.map_cons, inductionHypothesis]

/-- The map in which the event is also forbidden by these variables. -/
def add (map : Disablement) (event : String) (names : NameSet) : Disablement where
  entries := place event names map.entries
  ascending := by
    rw [events_place]
    exact NameSet.ascending_place event map.ascending

/-- The map that forbids what either map forbids. -/
def union (left right : Disablement) : Disablement :=
  right.entries.foldl (fun map entry => map.add entry.1 entry.2) left

/-- The entry of an event. -/
def get? (map : Disablement) (event : String) : Option NameSet := map.entries.lookup event

/-- The variables of the states that forbid the event, ascending; none for an unknown event. -/
def statesDisabling (map : Disablement) (event : String) : List String :=
  ((map.get? event).getD NameSet.empty).names

/-- The events with an entry, ascending. -/
def events (map : Disablement) : List String := map.entries.map Prod.fst

/-- The number of events with an entry. -/
def size (map : Disablement) : Nat := map.entries.length

/-- True when no event has an entry. -/
def isEmpty (map : Disablement) : Bool := map.entries.isEmpty

/-- True when the automaton has a transition from the state on the controllable event of this
name. A self-loop counts. -/
def enables (automaton : Automaton) (state : State) (event : Event) : Bool :=
  automaton.transitions.any fun transition =>
    transition.origin == state && transition.trigger.isControllable &&
      transition.trigger.name == event.name

/-- The variables of the states in which the supervisor at this place forbids the event. -/
def forbidding (index : Nat) (supervisor : Automaton) (event : Event) : NameSet :=
  NameSet.ofList
    ((supervisor.states.filter fun state => !enables supervisor state event).map fun state =>
      (Signal.supervisorState index state).variableName)

/-- What one supervisor forbids: every controllable event of its alphabet has an entry. -/
def ofSupervisor (index : Nat) (supervisor : Automaton) : Disablement :=
  supervisor.controllableEvents.foldl
    (fun map event => map.add event.name (forbidding index supervisor event)) empty

/-- What a list of supervisors forbids together. -/
def ofSupervisors (supervisors : List Automaton) : Disablement :=
  supervisors.zipIdx.foldl (fun map entry => map.union (ofSupervisor entry.2 entry.1)) empty

/-- The record of a finished map. -/
def record (supervisors : List Automaton) : Record :=
  ⟨.debug, "Disablement covers " ++ Nat.repr (ofSupervisors supervisors).size ++
    " controllable events over " ++ Nat.repr supervisors.length ++ " supervisors"⟩

end Disablement

end SupervisoryLadder
