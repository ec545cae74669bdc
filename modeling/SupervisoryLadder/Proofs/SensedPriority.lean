import SupervisoryLadder.Proofs.Component
import SupervisoryLadder.Proofs.PlantStep

/-!
# Sensed events come before commands

The first enabled move of all plants is the first enabled move of its own plant, wherever this plant
stands in the list. Within a plant the moves from one state stand together, and those on sensed
events stand before those on commands. So a plant that is in one state makes a move by command only
when no sensed event is there that would move it from that state. Other plants matter only in so far
as one of them may move in its place.
-/

namespace SupervisoryLadder.Ladder

/-- The first enabled move of all plants is the first enabled one of its own plant. -/
theorem find?_plant_of_find? {order : Automaton → List Transition} {plants : List Automaton}
    {values : Valuation} {move : PlantMove}
    (found : (movesInOrder order plants).find? (·.enabled values) = some move) :
    (order move.plant).find? (Rung.moveEnabled move.plant.name · values) =
      some move.transition := by
  rw [movesInOrder, List.find?_flatMap] at found
  obtain ⟨plant, -, own⟩ := List.exists_of_findSome?_eq_some found
  rw [List.find?_map] at own
  obtain ⟨transition, first, rfl⟩ := Option.map_eq_some_iff.mp own
  exact first

/-- No move of a plant that is enabled as well has to come before the first enabled one. -/
theorem precedes_of_find? {plant : Automaton} {enabled : Transition → Bool}
    {first other : Transition} (found : (orderedMoves plant).find? enabled = some first)
    (moves : other ∈ plant.moves) (alsoEnabled : enabled other = true) :
    plantPrecedes first other = true := by
  obtain ⟨-, before, behind, split, skipped⟩ := List.find?_eq_some_iff_append.mp found
  have sorted : (before ++ first :: behind).Pairwise (plantPrecedes · · = true) := by
    rw [← split]
    exact List.pairwise_mergeSort plantPrecedes_trans plantPrecedes_total plant.moves
  have listed : other ∈ before ++ first :: behind := by
    rw [← split]
    exact List.mem_mergeSort.mpr moves
  rcases List.mem_append.mp listed with early | late
  · have passed := skipped other early
    simp [alsoEnabled] at passed
  · rcases List.mem_cons.mp late with rfl | later
    · exact precedes_of_rungKey_eq rfl
    · exact (List.pairwise_cons.mp (List.pairwise_append.mp sorted).2.1).1 other later

/-- A command never comes before a sensed event of the same origin. -/
theorem not_precedes_of_sensed {command sensed : Transition}
    (sameOrigin : sensed.origin = command.origin)
    (commanded : command.trigger.isControllable = true)
    (uncontrollable : sensed.trigger.isControllable = false) :
    ¬ plantPrecedes command sensed = true := by
  simp [plantPrecedes, sameOrigin, commanded, uncontrollable]

/-- Sensed events take priority over commands. Let a plant have different bits for different states
and be in one state when the scan arrives at the plants, all other variables being arbitrary. If the
scan then makes a move of this plant by command, none of the sensed events that would move the plant
from its state is there. -/
theorem command_yields_to_sensed (system : ControlSystem) (plant : Automaton)
    (distinct : (Component.plant plant).bits.Nodup) (scan : Scan)
    (ready : scan.ReadyAt (sectionStart system .plants + 1)) (state : State)
    (inState : (Component.plant plant).InState scan.values state) (command : Transition)
    (fired : ⟨plant, command⟩ ∈
      firedMoves system ((generate system).pass .plants .procedures scan))
    (commanded : command.trigger.isControllable = true) :
    ∀ transition ∈ plant.transitions, transition.origin = state → transition.destination ≠ state →
      transition.trigger.isControllable = false →
        scan.values (Signal.occurrence transition.trigger).variableName = false := by
  rw [(pass_plants system scan ready).2.1, Option.mem_toList] at fired
  have first := find?_plant_of_find? fired
  have origin : command.origin = state := by
    have enabled := List.find?_some first
    have occupied : scan.values ((Component.plant plant).bit command.origin) = true :=
      (Bool.and_eq_true_iff.mp enabled).1
    have moves := (mem_movesInOrder.mp (List.mem_of_find?_eq_some fired)).2
    have listed := (plant.ends_mem (Automaton.mem_moves.mp moves).1).1
    exact (inState.bit_iff distinct listed).mp occupied
  intro transition present leaves changes uncontrollable
  rw [← Bool.not_eq_true]
  intro sensed
  have moves : transition ∈ plant.moves := by
    rw [Automaton.mem_moves, leaves]
    exact ⟨present, changes.symm⟩
  have enabled : Rung.moveEnabled plant.name transition scan.values = true := by
    have occupied : scan.values ((Component.plant plant).bit transition.origin) = true := by
      rw [leaves]
      exact (inState.bit_iff distinct inState.1).mpr rfl
    rw [Rung.moveEnabled, uncontrollable, if_neg Bool.false_ne_true, sensed, Bool.and_true]
    exact occupied
  have sameOrigin : transition.origin = command.origin := leaves.trans origin.symm
  exact not_precedes_of_sensed sameOrigin commanded uncontrollable
    (precedes_of_find? first moves enabled)

namespace Press

def opened : State := ⟨"open", .marked⟩

/-- The press is closed by command. -/
def shut : Transition := ⟨opened, ⟨"shut", .controllable⟩, ⟨"closed", .unmarked⟩⟩

/-- The press reports that it is blocked. -/
def jam : Transition := ⟨opened, ⟨"jam", .uncontrollable⟩, ⟨"stuck", .unmarked⟩⟩

/-- A press whose model lists the command before the report. -/
def plant : Automaton := Automaton.build "P" opened [shut, jam]

/-- The press behind a machine of the small factory. -/
def system : ControlSystem := ⟨[], [SmallFactory.machine "M" "a" "b", plant], []⟩

/-- The machine is busy and the press is open. -/
def waiting : Valuation := fun name => name ∈ ["M_busy", "P_open"]

/-- The report comes first although the model lists it last. -/
theorem plants_sensedFirst :
    ∀ plant ∈ system.plants, SensedFirst plant.moves plant.moves.reverse := by
  intro other member
  simp only [system, List.mem_cons, List.not_mem_nil, or_false] at member
  rcases member with rfl | rfl
  · exact SmallFactory.machine_sensedFirst "M" "a" "b"
  · exact SensedFirst.swap (by decide) (by decide)

end Press

/-- The open press is closed by command, so it has not reported a jam. -/
theorem press_shut_unless_jammed :
    ⟨Press.plant, Press.shut⟩ ∈ firedMoves Press.system
        ((generate Press.system).pass .plants .procedures (Scan.opened Press.waiting)) ∧
      Press.waiting "jam" = false := by
  have ready := Scan.opened_readyAt Press.waiting (rail_lt_sectionStart Press.system .plants)
  have fired : ⟨Press.plant, Press.shut⟩ ∈ firedMoves Press.system
      ((generate Press.system).pass .plants .procedures (Scan.opened Press.waiting)) := by
    rw [(pass_plants _ _ ready).2.1, Option.mem_toList, ← movesInOrder_eq Press.plants_sensedFirst]
    decide
  exact ⟨fired, command_yields_to_sensed Press.system Press.plant (by decide) _ ready Press.opened
    (by decide) Press.shut fired rfl Press.jam (by decide) rfl (by decide) rfl⟩

end SupervisoryLadder.Ladder
