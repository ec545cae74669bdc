import Mathlib.Data.List.Nodup
import SupervisoryLadder.Disablement
import SupervisoryLadder.Proofs.RungEffect

/-!
# Automata and their state bits

A component is an automaton of a control system in its role, which gives the signals of its states.
It is in a state when, of all its bits, exactly the one of that state is true. A component stays in
its state under writes to other variables, and setting the bit of another state and then clearing
its own moves it there; these two facts are all that the rungs need. A control system has one
component for every supervisor, at its place in the list, and one for every plant.
-/

namespace SupervisoryLadder

namespace Automaton

/-- The initial state is listed. -/
theorem initial_mem (automaton : Automaton) : automaton.initial ∈ automaton.states :=
  automaton.states_start.subset (List.mem_eraseDups.mpr List.mem_cons_self)

/-- The ends of every transition are listed. -/
theorem ends_mem (automaton : Automaton) {transition : Transition}
    (member : transition ∈ automaton.transitions) :
    transition.origin ∈ automaton.states ∧ transition.destination ∈ automaton.states := by
  have listed {state : State} (isEnd : state ∈ transition.ends) : state ∈ automaton.states :=
    automaton.states_start.subset (List.mem_eraseDups.mpr
      (List.mem_cons_of_mem _ (List.mem_flatMap.mpr ⟨transition, member, isEnd⟩)))
  exact ⟨listed (by simp [Transition.ends]), listed (by simp [Transition.ends])⟩

/-- The trigger of every transition is in the alphabet. -/
theorem trigger_mem (automaton : Automaton) {transition : Transition}
    (member : transition ∈ automaton.transitions) : transition.trigger ∈ automaton.events :=
  automaton.events_start.subset (List.mem_eraseDups.mpr (List.mem_map_of_mem member))

/-- A move is a transition between different states. -/
theorem mem_moves {automaton : Automaton} {transition : Transition} :
    transition ∈ automaton.moves ↔
      transition ∈ automaton.transitions ∧ transition.origin ≠ transition.destination := by
  simp [moves, Transition.isSelfLoop]

end Automaton

namespace Ladder

namespace Valuation

theorem write_self (values : Valuation) (name : String) (value : Bool) :
    values.write name value name = value := if_pos rfl

theorem write_of_ne (values : Valuation) {name other : String} (different : other ≠ name)
    (value : Bool) : values.write name value other = values other := if_neg different

/-- Writes leave a variable alone that none of them names. -/
theorem writeAll_of_not_mem (values : Valuation) {writes : List (String × Bool)} {name : String}
    (unwritten : ∀ entry ∈ writes, name ≠ entry.1) : values.writeAll writes name = values name := by
  induction writes generalizing values with
  | nil => rfl
  | cons entry rest inductionHypothesis =>
    rw [writeAll, List.foldl_cons]
    refine (inductionHypothesis (values.write entry.1 entry.2) fun other member =>
      unwritten other (List.mem_cons_of_mem _ member)).trans ?_
    exact write_of_ne values (unwritten entry List.mem_cons_self) entry.2

/-- Writes that all have one value give that value to every variable they name. -/
theorem writeAll_of_mem (values : Valuation) {names : List String} {name : String}
    (written : name ∈ names) (value : Bool) :
    values.writeAll (names.map fun name => (name, value)) name = value := by
  induction names generalizing values with
  | nil => cases written
  | cons head rest inductionHypothesis =>
    by_cases later : name ∈ rest
    · exact inductionHypothesis (values.write head value) later
    · have same : name = head := (List.mem_cons.mp written).resolve_right later
      subst same
      rw [List.map_cons, writeAll, List.foldl_cons]
      refine (writeAll_of_not_mem (values.write name value) ?_).trans (write_self values name value)
      intro entry member
      obtain ⟨other, present, rfl⟩ := List.mem_map.mp member
      exact fun same => later (same ▸ present)

theorem writeAll_append (values : Valuation) (front back : List (String × Bool)) :
    values.writeAll (front ++ back) = (values.writeAll front).writeAll back :=
  List.foldl_append

end Valuation

/-- An automaton of a system in its role: a supervisor at a place of the list, or a plant. -/
inductive Component where
  | supervisor (index : Nat) (automaton : Automaton)
  | plant (automaton : Automaton)
  deriving DecidableEq

namespace Component

/-- The automaton in the role. -/
def automaton : Component → Automaton
  | supervisor _ automaton => automaton
  | plant automaton => automaton

/-- The signal of a state: supervisors are told apart by their place, plants by their name. -/
def signal : Component → State → Signal
  | supervisor index _ => .supervisorState index
  | plant automaton => .plantState automaton.name

/-- The variable of a state. -/
def bit (component : Component) (state : State) : String := (component.signal state).variableName

/-- The variables of all states. -/
def bits (component : Component) : List String := component.automaton.states.map component.bit

/-- Of all bits exactly that of the state is true. -/
def InState (component : Component) (values : Valuation) (state : State) : Prop :=
  state ∈ component.automaton.states ∧
    ∀ bit ∈ component.bits, values bit = true ↔ bit = component.bit state

instance (component : Component) (values : Valuation) (state : State) :
    Decidable (component.InState values state) := inferInstanceAs (Decidable (_ ∧ _))

variable {component : Component} {values : Valuation} {state : State}

theorem bit_mem (member : state ∈ component.automaton.states) :
    component.bit state ∈ component.bits := List.mem_map_of_mem member

/-- Different states have different bits when no bit is listed twice. -/
theorem bit_injective (distinct : component.bits.Nodup) {other : State}
    (member : state ∈ component.automaton.states) (otherMember : other ∈ component.automaton.states)
    (same : component.bit state = component.bit other) : state = other :=
  List.inj_on_of_nodup_map distinct member otherMember same

/-- The bit of a state is true exactly in that state. -/
theorem InState.bit_iff (inState : component.InState values state) (distinct : component.bits.Nodup)
    {other : State} (member : other ∈ component.automaton.states) :
    values (component.bit other) = true ↔ other = state := by
  rw [inState.2 _ (bit_mem member)]
  exact ⟨bit_injective distinct member inState.1, fun same => same ▸ rfl⟩

/-- A component stays in its state as long as its bits keep their values. -/
theorem InState.of_eq (inState : component.InState values state) {next : Valuation}
    (kept : ∀ bit ∈ component.bits, next bit = values bit) : component.InState next state :=
  ⟨inState.1, fun bit member => by rw [kept bit member]; exact inState.2 bit member⟩

/-- Setting the bit of another state and clearing the own one moves the component there. -/
theorem InState.move (inState : component.InState values state) (distinct : component.bits.Nodup)
    {destination : State} (member : destination ∈ component.automaton.states)
    (different : state ≠ destination) :
    component.InState
      (values.writeAll [(component.bit destination, true), (component.bit state, false)])
      destination := by
  refine ⟨member, fun bit listed => ?_⟩
  have apart : component.bit state ≠ component.bit destination := fun same =>
    different (bit_injective distinct inState.1 member same)
  show (values.write (component.bit destination) true).write (component.bit state) false bit =
    true ↔ bit = component.bit destination
  by_cases own : bit = component.bit state
  · subst own
    simp [Valuation.write_self, apart]
  · rw [Valuation.write_of_ne _ own]
    by_cases target : bit = component.bit destination
    · subst target
      simp [Valuation.write_self]
    · rw [Valuation.write_of_ne _ target, inState.2 bit listed]
      simp [own, target]

end Component

/-- The supervisors of a system with their signals. -/
def supervisorComponents (system : ControlSystem) : List Component :=
  system.supervisors.zipIdx.map fun entry => Component.supervisor entry.2 entry.1

/-- The plants of a system with their signals. -/
def plantComponents (system : ControlSystem) : List Component :=
  system.plants.map Component.plant

/-- All automata of a system, supervisors first. -/
def components (system : ControlSystem) : List Component :=
  supervisorComponents system ++ plantComponents system

theorem supervisor_mem_components {system : ControlSystem} {entry : Automaton × Nat}
    (member : entry ∈ system.supervisors.zipIdx) :
    Component.supervisor entry.2 entry.1 ∈ components system :=
  List.mem_append_left _ (List.mem_map_of_mem member)

theorem plant_mem_components {system : ControlSystem} {plant : Automaton}
    (member : plant ∈ system.plants) : Component.plant plant ∈ components system :=
  List.mem_append_right _ (List.mem_map_of_mem member)

/-- The supervisors with their signals are those at the places of the list. -/
theorem mem_supervisorComponents {system : ControlSystem} {component : Component} :
    component ∈ supervisorComponents system ↔
      ∃ (index : Nat) (supervisor : Automaton), system.supervisors[index]? = some supervisor ∧
        Component.supervisor index supervisor = component := by
  simp only [supervisorComponents, List.mem_map, Prod.exists, List.mem_zipIdx_iff_getElem?]
  exact exists_comm

end Ladder

end SupervisoryLadder
