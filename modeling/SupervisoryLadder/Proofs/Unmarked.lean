import SupervisoryLadder.Proofs.Component
import SupervisoryLadder.Ladder.Generation

/-!
# Programs do not depend on markings

A marking is part of a state, so it takes part in every comparison that the generation makes: which
transitions are self-loops, which pairs of states share a rung, which states enable an event. In an
automaton whose states have one marking for each name, all these comparisons come down to names,
and so do the variables of the states. Such an automaton has the same rungs when all its markings
are taken away, and a system of such automata has the same program.
-/

namespace SupervisoryLadder

/-- The state of the same name without a mark. -/
def State.unmarked (state : State) : State := ⟨state.name, .unmarked⟩

/-- The transition between the unmarked states. -/
def Transition.unmarked (transition : Transition) : Transition :=
  ⟨transition.origin.unmarked, transition.trigger, transition.destination.unmarked⟩

namespace Automaton

/-- The automaton with all markings taken away. -/
def unmarked (automaton : Automaton) : Automaton :=
  ((build automaton.name automaton.initial.unmarked
    (automaton.transitions.map Transition.unmarked)).withStates
      (automaton.states.map State.unmarked)).withEvents automaton.events

/-- States of one name have one marking. -/
def MarkedByName (automaton : Automaton) : Prop :=
  ∀ state ∈ automaton.states, ∀ other ∈ automaton.states, state.name = other.name → state = other

/-- What the transitions mention, unmarked. -/
theorem ends_unmarked (transitions : List Transition) :
    (transitions.map Transition.unmarked).flatMap Transition.ends =
      (transitions.flatMap Transition.ends).map State.unmarked := by
  rw [List.flatMap_map, List.map_flatMap]
  rfl

/-- The alphabet does not change with the markings. -/
theorem events_unmarked (automaton : Automaton) : automaton.unmarked.events = automaton.events := by
  have triggers : (automaton.transitions.map Transition.unmarked).map Transition.trigger =
      automaton.transitions.map Transition.trigger := by
    rw [List.map_map]
    rfl
  show (((automaton.transitions.map Transition.unmarked).map Transition.trigger).eraseDups ++
    automaton.events).eraseDups = automaton.events
  rw [triggers]
  exact Distinct.eraseDups_append_of_start automaton.events_start automaton.events_nodup

section MarkedByName

variable {automaton : Automaton} (byName : automaton.MarkedByName)
include byName

/-- Unmarked states of such an automaton are the same only if the states are. -/
theorem MarkedByName.unmarked_inj {state other : State} (member : state ∈ automaton.states)
    (otherMember : other ∈ automaton.states) : state.unmarked = other.unmarked ↔ state = other := by
  constructor
  · intro same
    have sameName : state.unmarked.name = other.unmarked.name := congrArg State.name same
    exact byName state member other otherMember sameName
  · intro same
    rw [same]

/-- The states keep their order, one for one. -/
theorem MarkedByName.states_unmarked :
    automaton.unmarked.states = automaton.states.map State.unmarked := by
  have apart : ∀ state ∈ automaton.states, ∀ other ∈ automaton.states,
      state.unmarked = other.unmarked → state = other := by
    intro state member other otherMember
    exact (byName.unmarked_inj member otherMember).mp
  have mentioned : automaton.initial :: automaton.transitions.flatMap Transition.ends ⊆
      automaton.states := by
    intro state member
    exact automaton.states_start.subset (List.mem_eraseDups.mpr member)
  have start : (((automaton.initial :: automaton.transitions.flatMap Transition.ends).map
      State.unmarked).eraseDups) <+: automaton.states.map State.unmarked := by
    rw [Distinct.eraseDups_map _ fun state member other otherMember =>
      apart state (mentioned member) other (mentioned otherMember)]
    exact automaton.states_start.map State.unmarked
  have distinct : (automaton.states.map State.unmarked).Nodup :=
    List.Nodup.map_on apart automaton.states_nodup
  show ((automaton.initial.unmarked ::
    (automaton.transitions.map Transition.unmarked).flatMap Transition.ends).eraseDups ++
      automaton.states.map State.unmarked).eraseDups = automaton.states.map State.unmarked
  rw [ends_unmarked, ← List.map_cons]
  exact Distinct.eraseDups_append_of_start start distinct

/-- The moves are the same, between unmarked states. -/
theorem MarkedByName.moves_unmarked :
    automaton.unmarked.moves = automaton.moves.map Transition.unmarked := by
  show (automaton.transitions.map Transition.unmarked).filter _ = _
  rw [List.filter_map, moves]
  congr 1
  apply List.filter_congr
  intro transition member
  obtain ⟨origin, destination⟩ := automaton.ends_mem member
  simp only [Function.comp_apply, Transition.isSelfLoop, Transition.unmarked,
    Bool.not_eq_eq_eq_not, Bool.not_not]
  rw [Bool.eq_iff_iff, beq_iff_eq, beq_iff_eq, byName.unmarked_inj origin destination]

end MarkedByName

/-- An automaton of unmarked parts is the automaton of the parts, unmarked. -/
theorem unmarked_build {name : String} {initial : State} {transitions : List Transition}
    {items : List State} {alphabet : List Event}
    (byName : (((build name initial transitions).withStates items).withEvents
      alphabet).MarkedByName) :
    (((build name initial transitions).withStates items).withEvents alphabet).unmarked =
      ((build name initial.unmarked (transitions.map Transition.unmarked)).withStates
        (items.map State.unmarked)).withEvents alphabet := by
  let listed := initial :: transitions.flatMap Transition.ends ++ items
  have states : (((build name initial transitions).withStates items).withEvents alphabet).states =
      listed.eraseDups := Distinct.eraseDups_eraseDups_append _ _
  have apart : ∀ state ∈ listed, ∀ other ∈ listed,
      state.unmarked = other.unmarked → state = other := by
    intro state member other otherMember
    rw [← List.mem_eraseDups, ← states] at member otherMember
    exact (byName.unmarked_inj member otherMember).mp
  apply Automaton.ext
  · rfl
  · rfl
  · rfl
  · show _ = ((initial.unmarked ::
      (transitions.map Transition.unmarked).flatMap Transition.ends).eraseDups ++
        items.map State.unmarked).eraseDups
    rw [byName.states_unmarked, states, ends_unmarked, Distinct.eraseDups_eraseDups_append,
      ← List.map_cons, ← List.map_append, Distinct.eraseDups_map _ apart]
  · show _ = (((transitions.map Transition.unmarked).map Transition.trigger).eraseDups ++
      alphabet).eraseDups
    rw [events_unmarked, List.map_map]
    rfl

end Automaton

namespace Ladder

section Rungs

variable {automaton : Automaton} (byName : automaton.MarkedByName)
include byName

/-- The same pairs of states have a rung, in the same order. -/
theorem movePairs_unmarked :
    movePairs automaton.unmarked =
      (movePairs automaton).map (Prod.map State.unmarked State.unmarked) := by
  have pairs : (automaton.moves.map Transition.unmarked).map
        (fun transition => (transition.origin, transition.destination)) =
      (automaton.moves.map fun transition => (transition.origin, transition.destination)).map
        (Prod.map State.unmarked State.unmarked) := by
    rw [List.map_map, List.map_map]
    rfl
  rw [movePairs, byName.moves_unmarked, pairs]
  apply Distinct.eraseDups_map
  have listed {pair : State × State}
      (member : pair ∈ automaton.moves.map fun transition =>
        (transition.origin, transition.destination)) :
      pair.1 ∈ automaton.states ∧ pair.2 ∈ automaton.states := by
    obtain ⟨transition, moves, rfl⟩ := List.mem_map.mp member
    exact automaton.ends_mem (Automaton.mem_moves.mp moves).1
  intro left leftMember right rightMember same
  obtain ⟨first, second⟩ := Prod.ext_iff.mp same
  apply Prod.ext
  · exact (byName.unmarked_inj (listed leftMember).1 (listed rightMember).1).mp first
  · exact (byName.unmarked_inj (listed leftMember).2 (listed rightMember).2).mp second

/-- A rung of a supervisor has the same events. -/
theorem moveEvents_unmarked {origin destination : State} (listed : origin ∈ automaton.states)
    (otherListed : destination ∈ automaton.states) :
    moveEvents automaton.unmarked origin.unmarked destination.unmarked =
      moveEvents automaton origin destination := by
  have between : (automaton.moves.filter ((fun transition =>
        transition.origin == origin.unmarked && transition.destination == destination.unmarked) ∘
          Transition.unmarked)) =
      automaton.moves.filter fun transition =>
        transition.origin == origin && transition.destination == destination := by
    apply List.filter_congr
    intro transition moves
    obtain ⟨first, second⟩ := automaton.ends_mem (Automaton.mem_moves.mp moves).1
    rw [Bool.eq_iff_iff]
    simp only [Function.comp_apply, Transition.unmarked, Bool.and_eq_true, beq_iff_eq,
      byName.unmarked_inj first listed, byName.unmarked_inj second otherListed]
  rw [moveEvents, byName.moves_unmarked, List.filter_map, List.map_map, between]
  rfl

/-- A supervisor has the same rungs. -/
theorem supervisorRungs_unmarked (index : Nat) :
    supervisorRungs index automaton.unmarked = supervisorRungs index automaton := by
  rw [supervisorRungs, movePairs_unmarked byName, List.map_map]
  apply List.map_congr_left
  intro pair member
  obtain ⟨transition, moves, rfl⟩ := List.mem_map.mp (List.mem_eraseDups.mp member)
  obtain ⟨origin, destination⟩ := automaton.ends_mem (Automaton.mem_moves.mp moves).1
  simp only [Function.comp_apply, Prod.map_apply, moveEvents_unmarked byName origin destination]
  rfl

/-- A plant has the same rungs: its moves are sorted by names and kinds of events. -/
theorem plantRungs_unmarked : plantRungs automaton.unmarked = plantRungs automaton := by
  have sorted : orderedMoves automaton.unmarked =
      (orderedMoves automaton).map Transition.unmarked := by
    rw [orderedMoves, byName.moves_unmarked, orderedMoves]
    symm
    apply List.map_mergeSort
    intro left _ right _
    rfl
  rw [plantRungs, sorted, List.map_map]
  rfl

/-- A state enables the same events. -/
theorem enables_unmarked {state : State} (listed : state ∈ automaton.states) (event : Event) :
    Disablement.enables automaton.unmarked state.unmarked event =
      Disablement.enables automaton state event := by
  show (automaton.transitions.map Transition.unmarked).any _ = _
  rw [List.any_map, Disablement.enables]
  rw [Bool.eq_iff_iff, List.any_eq_true, List.any_eq_true]
  apply exists_congr
  intro transition
  apply and_congr_right
  intro member
  have origin := (automaton.ends_mem member).1
  simp only [Function.comp_apply, Transition.unmarked, Bool.and_eq_true, beq_iff_eq,
    byName.unmarked_inj origin listed]

/-- A supervisor forbids the same events by the same variables. -/
theorem ofSupervisor_unmarked (index : Nat) :
    Disablement.ofSupervisor index automaton.unmarked =
      Disablement.ofSupervisor index automaton := by
  have forbidding : Disablement.forbidding index automaton.unmarked =
      Disablement.forbidding index automaton := by
    funext event
    rw [Disablement.forbidding, byName.states_unmarked, List.filter_map, List.map_map,
      Disablement.forbidding]
    congr 2
    apply List.filter_congr
    intro state member
    rw [Function.comp_apply, enables_unmarked byName member]
  rw [Disablement.ofSupervisor, Disablement.ofSupervisor, Automaton.controllableEvents,
    Automaton.events_unmarked, forbidding, Automaton.controllableEvents]

end Rungs

end Ladder

/-- The system with all markings taken away. -/
def ControlSystem.unmarked (system : ControlSystem) : ControlSystem :=
  ⟨system.supervisors.map Automaton.unmarked, system.plants.map Automaton.unmarked, system.events⟩

/-- In every automaton of the system, states of one name have one marking. -/
def ControlSystem.MarkedByName (system : ControlSystem) : Prop :=
  ∀ automaton ∈ system.supervisors ++ system.plants, automaton.MarkedByName

namespace Ladder

/-- Systems with the same rungs in every section have the same program. -/
theorem generate_congr {system other : ControlSystem}
    (same : sectionRungs system = sectionRungs other) : generate system = generate other := by
  simp only [generate, sections, Section.all, layoutSections, same]

/-- The events with a flag do not change with the markings. -/
theorem flaggedEvents_unmarked (system : ControlSystem) :
    flaggedEvents system.unmarked = flaggedEvents system := by
  have alphabets : (system.supervisors.map Automaton.unmarked ++
      system.plants.map Automaton.unmarked).flatMap Automaton.events =
        (system.supervisors ++ system.plants).flatMap Automaton.events := by
    rw [← List.map_append, List.flatMap_map]
    simp only [Automaton.events_unmarked]
  rw [flaggedEvents, flaggedEvents, ControlSystem.unmarked, alphabets]

/-- The same variables are set on the start request. -/
theorem start_unmarked (system : ControlSystem) :
    Rung.start (initialSignals system.unmarked) = Rung.start (initialSignals system) := by
  simp only [Rung.start, initialSignals, ControlSystem.unmarked, List.zipIdx_map, List.map_append,
    List.map_map]
  rfl

section System

variable {system : ControlSystem} (byName : system.MarkedByName)
include byName

/-- The supervisors forbid the same events by the same variables. -/
theorem ofSupervisors_unmarked :
    Disablement.ofSupervisors system.unmarked.supervisors =
      Disablement.ofSupervisors system.supervisors := by
  have each : (system.unmarked.supervisors.zipIdx.map fun entry =>
        Disablement.ofSupervisor entry.2 entry.1) =
      system.supervisors.zipIdx.map fun entry => Disablement.ofSupervisor entry.2 entry.1 := by
    rw [ControlSystem.unmarked, List.zipIdx_map, List.map_map]
    apply List.map_congr_left
    intro entry listed
    exact ofSupervisor_unmarked
      (byName entry.1 (List.mem_append_left _ (List.fst_mem_of_mem_zipIdx listed))) entry.2
  have folded (supervisors : List Automaton) : Disablement.ofSupervisors supervisors =
      (supervisors.zipIdx.map fun entry => Disablement.ofSupervisor entry.2 entry.1).foldl
        Disablement.union Disablement.empty := by
    rw [List.foldl_map]
    rfl
  rw [folded, each, ← folded]

/-- Every section has the same rungs. -/
theorem sectionRungs_unmarked (place : Section) :
    sectionRungs system.unmarked place = sectionRungs system place := by
  cases place with
  | supervisors =>
    simp only [sectionRungs, List.flatMap_def]
    rw [ControlSystem.unmarked, List.zipIdx_map, List.map_map]
    apply congrArg List.flatten
    apply List.map_congr_left
    intro entry listed
    exact supervisorRungs_unmarked
      (byName entry.1 (List.mem_append_left _ (List.fst_mem_of_mem_zipIdx listed))) entry.2
  | disablement =>
    rw [sectionRungs, sectionRungs, flaggedEvents_unmarked, ofSupervisors_unmarked byName]
  | plants =>
    simp only [sectionRungs, List.flatMap_def]
    rw [ControlSystem.unmarked, List.map_map]
    apply congrArg List.flatten
    apply List.map_congr_left
    intro plant listed
    exact plantRungs_unmarked (byName plant (List.mem_append_right _ listed))
  | procedures => rw [sectionRungs, sectionRungs, start_unmarked]

/-- A system whose states are marked by name has the program of the unmarked system. -/
theorem generate_unmarked : generate system.unmarked = generate system := by
  apply generate_congr
  funext place
  exact sectionRungs_unmarked byName place

end System

end Ladder

end SupervisoryLadder
