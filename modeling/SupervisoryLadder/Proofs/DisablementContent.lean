import SupervisoryLadder.Proofs.BitNames
import SupervisoryLadder.Proofs.ByteOrder
import SupervisoryLadder.Proofs.DisablementMap

/-!
# The whole content of the disablement map

The map of a list of supervisors is fixed by two lists of names. Its events are the names of the
controllable events that some supervisor knows. The variables of an event are the bits of the states
in which some supervisor that knows the event has no transition on it. Both lists ascend by bytes,
so nothing occurs in them twice and nothing is left to the order in which the map was filled.

Bits of different supervisors have different names, but states of one supervisor may share a bit.
So a variable can be listed for an event although the state it was asked for does allow the event;
then another state with the same bit forbids it.
-/

namespace SupervisoryLadder

namespace Automaton

variable {automaton : Automaton} {state : State} {event : Event}

/-- A state that no transition leaves forbids every controllable event of the alphabet. -/
theorem forbids_of_dead (known : event ∈ automaton.controllableEvents)
    (dead : ∀ transition ∈ automaton.transitions, transition.origin ≠ state) :
    automaton.Forbids state event.name := by
  obtain ⟨listed, controllable⟩ := List.mem_filter.mp known
  constructor
  · exact ⟨event, listed, controllable, rfl⟩
  · intro transition present origin
    exact absurd origin (dead transition present)

/-- A controllable event of the alphabet that triggers no transition is forbidden in every state. -/
theorem forbids_of_unused (known : event ∈ automaton.controllableEvents)
    (unused : ∀ transition ∈ automaton.transitions, transition.trigger ≠ event) :
    automaton.Forbids state event.name := by
  obtain ⟨listed, controllable⟩ := List.mem_filter.mp known
  constructor
  · exact ⟨event, listed, controllable, rfl⟩
  · intro transition present _ triggered sameName
    apply unused transition present
    exact (Event.eq_iff_of_controllable controllable).mpr ⟨triggered, sameName⟩

/-- The origin of a transition does not forbid its trigger, wherever the transition leads. -/
theorem not_forbids_origin {transition : Transition} (present : transition ∈ automaton.transitions)
    (controllable : transition.trigger.isControllable = true) :
    ¬ automaton.Forbids transition.origin transition.trigger.name := by
  rintro ⟨-, lacking⟩
  exact lacking transition present rfl controllable rfl

end Automaton

namespace Disablement

/-- Adding to an event gives it an entry and takes none away. -/
theorem mem_events_add (map : Disablement) (event : String) (names : NameSet) (other : String) :
    other ∈ (map.add event names).events ↔ other ∈ map.events ∨ other = event := by
  have placed : (map.add event names).events = NameSet.place event map.events :=
    events_place event names map.entries
  rw [placed, NameSet.mem_place, or_comm]

/-- Adding many entries gives all their events an entry. -/
theorem mem_events_foldl {α : Type} (items : List α) (event : α → String) (names : α → NameSet)
    (map : Disablement) (other : String) :
    other ∈ (items.foldl (fun map item => map.add (event item) (names item)) map).events ↔
      other ∈ map.events ∨ ∃ item ∈ items, other = event item :=
  foldl_holds_iff (other ∈ events ·)
    (fun map item => mem_events_add map (event item) (names item) other) items map

/-- A union has the events of both maps. -/
theorem mem_events_union (left right : Disablement) (event : String) :
    event ∈ (left.union right).events ↔ event ∈ left.events ∨ event ∈ right.events := by
  rw [union, mem_events_foldl]
  simp [events]

/-- One supervisor has entries for the controllable events of its alphabet. -/
theorem mem_events_ofSupervisor (index : Nat) (supervisor : Automaton) (name : String) :
    name ∈ (ofSupervisor index supervisor).events ↔
      ∃ event ∈ supervisor.events, event.isControllable = true ∧ event.name = name := by
  rw [ofSupervisor, mem_events_foldl]
  constructor
  · rintro (unknown | ⟨event, known, rfl⟩)
    · cases unknown
    · obtain ⟨listed, controllable⟩ := List.mem_filter.mp known
      exact ⟨event, listed, controllable, rfl⟩
  · rintro ⟨event, listed, controllable, rfl⟩
    exact .inr ⟨event, List.mem_filter.mpr ⟨listed, controllable⟩, rfl⟩

/-- A list of supervisors has the entries of all of them. -/
theorem mem_events_ofSupervisors (supervisors : List Automaton) (name : String) :
    name ∈ (ofSupervisors supervisors).events ↔ ∃ supervisor ∈ supervisors,
      ∃ event ∈ supervisor.events, event.isControllable = true ∧ event.name = name := by
  have unheld : name ∉ empty.events := List.not_mem_nil
  rw [ofSupervisors_holds_iff (name ∈ events ·)
    (fun left right => mem_events_union left right name) unheld]
  simp only [mem_events_ofSupervisor]
  constructor
  · rintro ⟨index, supervisor, present, known⟩
    exact ⟨supervisor, List.mem_of_getElem? present, known⟩
  · rintro ⟨supervisor, member, known⟩
    obtain ⟨index, present⟩ := List.mem_iff_getElem?.mp member
    exact ⟨index, supervisor, present, known⟩

/-- The variables of an event ascend. -/
theorem ascending_statesDisabling (map : Disablement) (event : String) :
    (map.statesDisabling event).Pairwise (· < ·) :=
  ((map.get? event).getD NameSet.empty).ascending

/-- The bit of a supervisor's state is listed for an event exactly when a state of that supervisor
with this bit forbids the event. -/
theorem bit_mem_statesDisabling_iff {supervisors : List Automaton} {index : Nat}
    {supervisor : Automaton} (present : supervisors[index]? = some supervisor) (state : State)
    (event : String) :
    (Signal.supervisorState index state).variableName ∈
        (ofSupervisors supervisors).statesDisabling event ↔
      ∃ other ∈ supervisor.states, supervisor.Forbids other event ∧
        (Signal.supervisorState index other).variableName =
          (Signal.supervisorState index state).variableName := by
  rw [mem_statesDisabling_ofSupervisors]
  constructor
  · rintro ⟨otherIndex, otherSupervisor, otherPresent, other, member, forbidden, same⟩
    obtain ⟨rfl, -⟩ := Signal.supervisorState_eq_iff.mp same
    obtain rfl := Option.some.inj (present.symm.trans otherPresent)
    exact ⟨other, member, forbidden, same⟩
  · rintro ⟨other, member, forbidden, same⟩
    exact ⟨index, supervisor, present, other, member, forbidden, same⟩

/-- The map of a list of supervisors, as a whole. Its events are the names of the controllable
events in the supervisors' alphabets, ascending by bytes. The variables of an event, ascending by
bytes, are the bits of exactly those states that forbid it in their supervisor. In particular a
state that no transition leaves is listed for every controllable event of its supervisor, and an
event that triggers no transition lists every state; but the origin of a transition on the event, be
it a self-loop, can be listed only because another state has the same bit. -/
theorem ofSupervisors_content (supervisors : List Automaton) :
    let map := ofSupervisors supervisors
    let bit (index : Nat) (state : State) := (Signal.supervisorState index state).variableName
    ((map.events.map ByteOrder.bytes).Pairwise (· < ·) ∧
      ∀ name, name ∈ map.events ↔ ∃ supervisor ∈ supervisors, ∃ event ∈ supervisor.events,
        event.isControllable = true ∧ event.name = name) ∧
    (∀ event, ((map.statesDisabling event).map ByteOrder.bytes).Pairwise (· < ·) ∧
      ∀ name, name ∈ map.statesDisabling event ↔
        ∃ index supervisor, supervisors[index]? = some supervisor ∧
          ∃ state ∈ supervisor.states, supervisor.Forbids state event ∧ bit index state = name) ∧
    ∀ index supervisor, supervisors[index]? = some supervisor →
      (∀ state ∈ supervisor.states,
        (∀ transition ∈ supervisor.transitions, transition.origin ≠ state) →
          ∀ event ∈ supervisor.controllableEvents,
            bit index state ∈ map.statesDisabling event.name) ∧
      (∀ event ∈ supervisor.controllableEvents,
        (∀ transition ∈ supervisor.transitions, transition.trigger ≠ event) →
          ∀ state ∈ supervisor.states, bit index state ∈ map.statesDisabling event.name) ∧
      ∀ transition ∈ supervisor.transitions, transition.trigger.isControllable = true →
        (bit index transition.origin ∈ map.statesDisabling transition.trigger.name ↔
          ∃ other ∈ supervisor.states, other ≠ transition.origin ∧
            bit index other = bit index transition.origin ∧
              supervisor.Forbids other transition.trigger.name) := by
  intro map bit
  refine ⟨⟨ByteOrder.ascending_bytes map.ascending, mem_events_ofSupervisors supervisors⟩, ?_, ?_⟩
  · intro event
    constructor
    · exact ByteOrder.ascending_bytes (map.ascending_statesDisabling event)
    · exact mem_statesDisabling_ofSupervisors supervisors event
  · intro index supervisor present
    refine ⟨?_, ?_, ?_⟩
    · intro state member dead event known
      apply (bit_mem_statesDisabling_iff present state event.name).mpr
      exact ⟨state, member, Automaton.forbids_of_dead known dead, rfl⟩
    · intro event known unused state member
      apply (bit_mem_statesDisabling_iff present state event.name).mpr
      exact ⟨state, member, Automaton.forbids_of_unused known unused, rfl⟩
    · intro transition listed controllable
      have allowed := Automaton.not_forbids_origin listed controllable
      rw [bit_mem_statesDisabling_iff present]
      constructor
      · rintro ⟨other, member, forbidden, same⟩
        exact ⟨other, member, fun origin => allowed (origin ▸ forbidden), same, forbidden⟩
      · rintro ⟨other, member, -, same, forbidden⟩
        exact ⟨other, member, forbidden, same⟩

/-- A tap that drips while water flows, and that nothing can turn on again. Draining is known to it
but triggers nothing. -/
def tap : Automaton :=
  let flowing : State := ⟨"flowing", .marked⟩
  (Automaton.build "T" flowing [⟨flowing, ⟨"drip", .controllable⟩, flowing⟩,
    ⟨flowing, ⟨"close", .controllable⟩, ⟨"shut", .unmarked⟩⟩]).withEvents [⟨"drain", .controllable⟩]

example : (ofSupervisors [tap]).events = ["close", "drain", "drip"] ∧
    (ofSupervisors [tap]).statesDisabling "drip" = ["s00_shut"] ∧
    (ofSupervisors [tap]).statesDisabling "drain" = ["s00_flowing", "s00_shut"] := by
  decide

end Disablement

end SupervisoryLadder
