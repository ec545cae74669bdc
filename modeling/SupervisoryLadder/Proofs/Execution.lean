import Mathlib.Tactic.Choose
import SupervisoryLadder.Proofs.Configuration
import SupervisoryLadder.Proofs.SupervisorSweep

/-!
# Runs of the program

A run begins with no bit set and the start request, and the request is gone in all later scans.
Between scans the environment may do anything to the variables that are neither bits nor the start
request. The scan with the request represents the initial states, and every later scan takes a
represented configuration to a represented one: supervisors follow the events of the last scan, and
then at most one plant makes one of its moves. So along every run each automaton has exactly one
true bit.
-/

namespace SupervisoryLadder.Ladder

/-- One plant goes along a transition to another state and the others stay. The plant was in the
origin, the event was permitted, and the event, with its petition if it is commanded, is announced
to the next scan. -/
structure Fires (system : ControlSystem) (before after : Valuation) (config next : Configuration)
    (plant : Component) (transition : Transition) : Prop where
  present : transition ∈ plant.automaton.transitions
  different : transition.origin ≠ transition.destination
  origin : config plant = transition.origin
  destination : next plant = transition.destination
  others : ∀ other ∈ plantComponents system, other ≠ plant → next other = config other
  permitted : Permitted system before next transition.trigger
  occurs : after (Signal.occurrence transition.trigger).variableName = true
  commanded : transition.trigger.isControllable = true →
    after (Signal.petition transition.trigger).variableName = true

/-- All plants stay, since no transition from the state of a plant to another state is permitted. -/
structure Rests (system : ControlSystem) (before : Valuation) (config next : Configuration) :
    Prop where
  stays : ∀ plant ∈ plantComponents system, next plant = config plant
  blocked : ∀ plant ∈ plantComponents system, ∀ transition ∈ plant.automaton.transitions,
    transition.origin ≠ transition.destination → config plant = transition.origin →
      ¬ Permitted system before next transition.trigger

/-- What a scan may do to a configuration: every supervisor makes a sweep on the events that
occurred at the start of the scan, which takes it along its own transitions, and at most one plant
changes its state. -/
structure Step (system : ControlSystem) (before after : Valuation) (config next : Configuration) :
    Prop where
  follows : ∀ supervisor ∈ supervisorComponents system,
    next supervisor = supervisor.automaton.sweep before.occurs (config supervisor)
  path : ∀ supervisor ∈ supervisorComponents system,
    Relation.ReflTransGen (MovesOn supervisor.automaton before) (config supervisor)
      (next supervisor)
  plants : Rests system before config next ∨
    ∃ plant ∈ plantComponents system, ∃ transition,
      Fires system before after config next plant transition

/-- A scan makes a step when the supervisors have followed and the plants rest or one fires. -/
theorem Step.of_followed {system : ControlSystem} {before after : Valuation}
    {config next : Configuration}
    (kept : ∀ supervisor ∈ supervisorComponents system,
      next supervisor = followed before config supervisor)
    (plants : Rests system before config next ∨ ∃ plant ∈ plantComponents system, ∃ transition,
      Fires system before after config next plant transition) :
    Step system before after config next where
  follows supervisor supervises := by
    rw [kept supervisor supervises, followed_of_supervisor supervises, follow_eq_sweep]
  path supervisor supervises := by
    rw [kept supervisor supervises, followed_of_supervisor supervises]
    exact follow_path supervisor.automaton before (config supervisor)
  plants := plants

/-- Without the start request, what arrives at the procedures is what the scan leaves. -/
theorem scan_of_released {system : ControlSystem} {values : Valuation}
    (released : ((generate system).arrive .procedures values).values Signal.start.variableName =
      false) :
    (generate system).scan values = ((generate system).arrive .procedures values).values := by
  rw [scan_generate, Rung.enterStates, released, if_neg Bool.false_ne_true]

/-- The start request sets the bits of the initial states of all automata. -/
theorem initialSignals_bits (system : ControlSystem) :
    (initialSignals system).map (fun signal => (signal.variableName, true)) =
      ((components system).map fun component => component.bit component.automaton.initial).map
        fun name => (name, true) := by
  rw [← initialSignals_names, List.map_map]
  rfl

section Distinct

variable {system : ControlSystem} (distinct : DistinctSignals system)
include distinct

/-- A scan without the start request takes a represented configuration to a represented one by a
step. The plants' section meets the configuration in which the supervisors have followed; if it
makes a move, the move is the first that is enabled, and enabled moves are those that are permitted
from the state of their plant. -/
theorem scan_step {values : Valuation} {config : Configuration}
    (represents : Represents system values config)
    (released : values Signal.start.variableName = false) :
    ∃ next, Represents system ((generate system).scan values) next ∧
      Step system values ((generate system).scan values) config next := by
  have standing := arrive_plants_represents distinct represents
  have quiet := (arrive_plants_start distinct values).trans released
  have arrived := arrive_procedures system values
  cases found : (movesInOrder orderedMoves system.plants).find?
      (·.enabled ((generate system).arrive .plants values).values) with
  | none =>
    rw [found, Option.elim_none] at arrived
    rw [scan_of_released (by rw [arrived, quiet]), arrived]
    refine ⟨followed values config, standing, Step.of_followed (fun _ _ => rfl) (.inl ⟨?_, ?_⟩)⟩
    · exact fun plant controlled => followed_of_plant controlled values config
    · intro component controlled transition present different origin permitted
      obtain ⟨plant, member, rfl⟩ := List.mem_map.mp controlled
      have moves := Automaton.mem_moves.mpr ⟨present, different⟩
      have tried := List.find?_eq_none.mp found ⟨plant, transition⟩
        (mem_movesInOrder.mpr ⟨member, moves⟩)
      exact tried ((enabled_iff_permitted distinct represents member moves).mpr ⟨origin, permitted⟩)
  | some move =>
    obtain ⟨member, moves⟩ := mem_movesInOrder.mp (List.mem_of_find?_eq_some found)
    have enabled := List.find?_some found
    obtain ⟨origin, permitted⟩ :=
      (enabled_iff_permitted distinct represents member moves).mp enabled
    obtain ⟨moved, announced, untouched⟩ := writes_represents distinct standing member moves origin
    rw [found, Option.elim_some] at arrived
    rw [scan_of_released (by rw [arrived, untouched, quiet]), arrived]
    let next := Function.update (followed values config) (.plant move.plant)
      move.transition.destination
    have kept : ∀ supervisor ∈ supervisorComponents system,
        next supervisor = followed values config supervisor := by
      intro supervisor supervises
      obtain ⟨index, automaton, -, rfl⟩ := mem_supervisorComponents.mp supervises
      exact Function.update_of_ne (by simp) _ _
    refine ⟨next, moved, Step.of_followed kept (.inr ⟨.plant move.plant,
      List.mem_map_of_mem member, move.transition, ?_⟩)⟩
    exact {
      present := (Automaton.mem_moves.mp moves).1
      different := (Automaton.mem_moves.mp moves).2
      origin := origin
      destination := Function.update_self _ _ _
      others := fun other controlled different =>
        (Function.update_of_ne different _ _).trans (followed_of_plant controlled values config)
      permitted := (permitted_congr kept values _).mpr permitted
      occurs := announced _ (List.mem_append_right _ (List.mem_singleton.mpr rfl))
      commanded := fun controllable => announced _ (List.mem_append_left _ (by
        rw [if_pos controllable, List.mem_singleton])) }

/-- With no bit set the supervisors stay idle and no plant moves, so all bits arrive unset at the
procedures, and the start request as it was. -/
theorem arrive_procedures_of_cleared {values : Valuation}
    (cleared : ∀ bit ∈ stateBits system, values bit = false) :
    (∀ bit ∈ stateBits system, ((generate system).arrive .procedures values).values bit = false) ∧
      ((generate system).arrive .procedures values).values Signal.start.variableName =
        values Signal.start.variableName := by
  have idle : followAll system.supervisors values = values :=
    followEntries_of_idle fun entry member bit listed => cleared bit
      (mem_stateBits (supervisor_mem_components member) listed)
  have unset : ∀ bit ∈ stateBits system,
      ((generate system).arrive .plants values).values bit = false := fun bit listed => by
    rw [arrive_plants_of_bit distinct values listed, idle, cleared bit listed]
  have still : (movesInOrder orderedMoves system.plants).find?
      (·.enabled ((generate system).arrive .plants values).values) = none := by
    refine List.find?_eq_none.mpr fun move listed enabled => ?_
    obtain ⟨member, moves⟩ := mem_movesInOrder.mp listed
    have origin := (move.plant.ends_mem (Automaton.mem_moves.mp moves).1).1
    have occupied := (Bool.and_eq_true_iff.mp enabled).1
    have empty := unset ((Component.plant move.plant).bit move.transition.origin)
      (mem_stateBits (plant_mem_components member) (Component.bit_mem origin))
    exact Bool.noConfusion (empty.symm.trans occupied)
  have arrived := arrive_procedures system values
  rw [still, Option.elim_none] at arrived
  rw [arrived]
  exact ⟨unset, arrive_plants_start distinct values⟩

/-- The scan with the start request represents the initial states when no bit was set before. -/
theorem first_scan {values : Valuation} (cleared : ∀ bit ∈ stateBits system, values bit = false)
    (requested : values Signal.start.variableName = true) :
    Represents system ((generate system).scan values) fun component =>
      component.automaton.initial := by
  obtain ⟨unset, start⟩ := arrive_procedures_of_cleared distinct cleared
  rw [scan_generate, Rung.enterStates, start, requested, if_pos rfl, initialSignals_bits]
  intro component member
  refine ⟨component.automaton.initial_mem, fun bit listed => ?_⟩
  by_cases initial : bit = component.bit component.automaton.initial
  · refine iff_of_true ?_ initial
    exact Valuation.writeAll_of_mem _ (List.mem_map.mpr ⟨component, member, initial.symm⟩) true
  · refine iff_of_false ?_ initial
    rw [Valuation.writeAll_of_not_mem, unset bit (mem_stateBits member listed)]
    · exact Bool.false_ne_true
    · intro entry written same
      obtain ⟨name, entered, rfl⟩ := List.mem_map.mp written
      obtain ⟨other, otherMember, rfl⟩ := List.mem_map.mp entered
      have shared : bit ∈ other.bits := same ▸ Component.bit_mem other.automaton.initial_mem
      exact initial (distinct.eq_of_shared member otherMember listed shared ▸ same)

end Distinct

/-- The valuations before the scans of a run of some length. No bit is set before the first scan,
the start request is there in the first scan only, and from one scan to the next the environment
leaves the bits alone; it may change every other variable. -/
structure IsRun (system : ControlSystem) (length : Nat) (before : Nat → Valuation) : Prop where
  cleared : ∀ bit ∈ stateBits system, before 0 bit = false
  requested : before 0 Signal.start.variableName = true
  released : ∀ n, n + 1 < length → before (n + 1) Signal.start.variableName = false
  carried : ∀ n, n + 1 < length → ∀ bit ∈ stateBits system,
    before (n + 1) bit = (generate system).scan (before n) bit

/-- The valuations before the scans when the environment only takes back the start request. -/
def undisturbed (system : ControlSystem) : Nat → Valuation
  | 0 => fun name => name == Signal.start.variableName
  | n + 1 => ((generate system).scan (undisturbed system n)).write Signal.start.variableName false

/-- Every system with distinct signals has a run of every length. -/
theorem undisturbed_isRun {system : ControlSystem} (distinct : DistinctSignals system)
    (length : Nat) : IsRun system length (undisturbed system) where
  cleared _ listed := beq_false_of_ne (distinct.bit_ne listed (.inr start_mem))
  requested := beq_self_eq_true _
  released _ _ := Valuation.write_self _ _ _
  carried _ _ _ listed := Valuation.write_of_ne _ (distinct.bit_ne listed (.inr start_mem)) _

/-- Every run of the program is a run of the automata. Let different signals of the system have
different variables. Then there is a configuration for every scan such that the first one is that of
the initial states, after every scan exactly the bits of its configuration are true, and every later
scan makes a step: the supervisors follow the events, and at most one plant moves, along one of its
transitions. -/
theorem run_simulates_automata (system : ControlSystem) (distinct : DistinctSignals system)
    (length : Nat) (before : Nat → Valuation) (run : IsRun system length before) :
    ∃ configurations : Nat → Configuration,
      (∀ component ∈ components system,
        configurations 0 component = component.automaton.initial) ∧
      (∀ n < length, Represents system ((generate system).scan (before n)) (configurations n)) ∧
      ∀ n, n + 1 < length → Step system (before (n + 1)) ((generate system).scan (before (n + 1)))
        (configurations n) (configurations (n + 1)) := by
  have advance (n : Nat) (config : Configuration) : ∃ next, n + 1 < length →
      Represents system ((generate system).scan (before n)) config →
      Represents system ((generate system).scan (before (n + 1))) next ∧
        Step system (before (n + 1)) ((generate system).scan (before (n + 1))) config next := by
    by_cases within : n + 1 < length ∧
        Represents system ((generate system).scan (before n)) config
    · obtain ⟨next, advanced⟩ := scan_step distinct (within.2.of_eq (run.carried n within.1))
        (run.released n within.1)
      exact ⟨next, fun _ _ => advanced⟩
    · exact ⟨config, fun inside represents => absurd ⟨inside, represents⟩ within⟩
  choose next advanced using advance
  let configurations : Nat → Configuration :=
    Nat.rec (fun component => component.automaton.initial) next
  have represents (n : Nat) (inside : n < length) :
      Represents system ((generate system).scan (before n)) (configurations n) := by
    induction n with
    | zero => exact first_scan distinct run.cleared run.requested
    | succ n inductionHypothesis =>
      exact (advanced n _ inside (inductionHypothesis (Nat.lt_of_succ_lt inside))).1
  exact ⟨configurations, fun _ _ => rfl, represents, fun n inside =>
    (advanced n _ inside (represents n (Nat.lt_of_succ_lt inside))).2⟩

/-- The small factory has distinct signals and therefore a run of five scans in which the automata
are simulated. -/
theorem small_factory_run :
    DistinctSignals SmallFactory.system ∧
      IsRun SmallFactory.system 5 (undisturbed SmallFactory.system) ∧
      ∃ configurations : Nat → Configuration,
        configurations 0 (.supervisor 0 SmallFactory.buffer) = ⟨"empty", .marked⟩ ∧
        Represents SmallFactory.system
          ((generate SmallFactory.system).scan (undisturbed SmallFactory.system 4))
          (configurations 4) ∧
        Step SmallFactory.system (undisturbed SmallFactory.system 4)
          ((generate SmallFactory.system).scan (undisturbed SmallFactory.system 4))
          (configurations 3) (configurations 4) := by
  have distinct : DistinctSignals SmallFactory.system := by decide +kernel
  have run := undisturbed_isRun distinct 5
  obtain ⟨configurations, initial, represents, steps⟩ :=
    run_simulates_automata SmallFactory.system distinct 5 _ run
  exact ⟨distinct, run, configurations, initial _ (by decide), represents 4 (by decide),
    steps 3 (by decide)⟩

end SupervisoryLadder.Ladder
