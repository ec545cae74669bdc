import SupervisoryLadder.Proofs.SignalNames
import SupervisoryLadder.Proofs.WholeScan

/-!
# Configurations and their valuations

A configuration gives every automaton of a system a state. A valuation represents it when every
automaton is in that state, that is, when the bit of the state is its only true one. With distinct
signals each section of the program acts on the configuration that is represented: the supervisors
follow, the flags leave it as it is, and the plants' section makes a move exactly when the plant is
in its origin and the event is permitted.
-/

namespace SupervisoryLadder.Ladder

/-- A state for every automaton. -/
abbrev Configuration := Component → State

/-- Every automaton of the system is in its state. -/
def Represents (system : ControlSystem) (values : Valuation) (config : Configuration) : Prop :=
  ∀ component ∈ components system, component.InState values (config component)

/-- The configuration in which the supervisors have followed the flags. -/
def followed (flags : Valuation) (config : Configuration) : Configuration
  | .supervisor index automaton => follow automaton flags (config (.supervisor index automaton))
  | .plant automaton => config (.plant automaton)

theorem followed_of_supervisor {system : ControlSystem} {component : Component}
    (supervises : component ∈ supervisorComponents system) (flags : Valuation)
    (config : Configuration) :
    followed flags config component = follow component.automaton flags (config component) := by
  obtain ⟨index, supervisor, -, rfl⟩ := mem_supervisorComponents.mp supervises
  rfl

theorem followed_of_plant {system : ControlSystem} {component : Component}
    (controlled : component ∈ plantComponents system) (flags : Valuation) (config : Configuration) :
    followed flags config component = config component := by
  obtain ⟨plant, -, rfl⟩ := List.mem_map.mp controlled
  rfl

/-- The event may happen: one that is sensed does occur, and one that is commanded is not forbidden
by any supervisor in its state. -/
def Permitted (system : ControlSystem) (flags : Valuation) (config : Configuration)
    (event : Event) : Prop :=
  if event.isControllable then
    ∀ component ∈ supervisorComponents system,
      ¬ component.automaton.Forbids (config component) event.name
  else flags (Signal.occurrence event).variableName = true

/-- Of a configuration, only the supervisors' states decide whether an event is permitted. -/
theorem permitted_congr {system : ControlSystem} {config other : Configuration}
    (same : ∀ component ∈ supervisorComponents system, config component = other component)
    (flags : Valuation) (event : Event) :
    Permitted system flags config event ↔ Permitted system flags other event := by
  unfold Permitted
  split
  · exact forall₂_congr fun component supervises => by rw [same component supervises]
  · exact Iff.rfl

/-- Every automaton keeps its state as long as all bits keep their values. -/
theorem Represents.of_eq {system : ControlSystem} {values next : Valuation} {config : Configuration}
    (represents : Represents system values config)
    (kept : ∀ bit ∈ stateBits system, next bit = values bit) : Represents system next config :=
  fun component member => (represents component member).of_eq fun bit listed =>
    kept bit (mem_stateBits member listed)

section Distinct

variable {system : ControlSystem} (distinct : DistinctSignals system)
include distinct

/-- Supervisors that follow the flags leave all of them, and the start request, as they are. -/
theorem followAll_of_flag (values : Valuation) {name : String}
    (flag : name ∈ occurrenceNames system ∨ name ∈ commandNames system) :
    followAll system.supervisors values name = values name := by
  refine followEntries_of_not_mem fun entry member listed => ?_
  exact distinct.bit_ne (mem_stateBits (supervisor_mem_components member) listed) flag rfl

/-- A supervisor follows the flags, whatever the others and the plants do. -/
theorem followAll_inState {values : Valuation} {component : Component}
    (supervises : component ∈ supervisorComponents system) {state : State}
    (inState : component.InState values state) :
    component.InState (followAll system.supervisors values)
      (follow component.automaton values state) := by
  obtain ⟨entry, listed, rfl⟩ := List.mem_map.mp supervises
  have member := supervisor_mem_components listed
  refine followEntries_inState listed inState (distinct.bits_nodup member) ?_ ?_ fun _ _ => rfl
  · have apart := (List.pairwise_append.mp distinct.components_apart).1
    rwa [supervisorComponents, List.pairwise_map] at apart
  · intro transition known other present shared
    exact distinct.bit_ne (mem_stateBits (supervisor_mem_components present) shared)
      (.inl (occurrence_mem (mem_systemEvents member (entry.1.trigger_mem known)))) rfl

/-- When the supervisors follow the flags, the configuration that is represented changes in the same
way. -/
theorem followAll_represents {values : Valuation} {config : Configuration}
    (represents : Represents system values config) :
    Represents system (followAll system.supervisors values) (followed values config) := by
  intro component member
  rcases List.mem_append.mp member with supervises | controlled
  · rw [followed_of_supervisor supervises]
    exact followAll_inState distinct supervises (represents component member)
  · obtain ⟨plant, listed, rfl⟩ := List.mem_map.mp controlled
    refine (represents _ member).of_eq fun bit own =>
      followEntries_of_not_mem fun entry present shared => ?_
    cases distinct.eq_of_shared (supervisor_mem_components present) member shared own

/-- Bits arrive at the plants as the supervisors leave them. -/
theorem arrive_plants_of_bit (values : Valuation) {bit : String} (listed : bit ∈ stateBits system) :
    ((generate system).arrive .plants values).values bit =
      followAll system.supervisors values bit :=
  (arrive_plants system values).2 bit fun _ known controllable =>
    distinct.bit_ne listed (.inr (command_mem known controllable).2)

/-- The variables of events and commands arrive at the plants unchanged, disablement flags apart. -/
theorem arrive_plants_of_flag (values : Valuation) {name : String}
    (flag : name ∈ occurrenceNames system ∨ name ∈ commandNames system)
    (unflagged : ∀ event ∈ systemEvents system, event.isControllable = true →
      name ≠ (Signal.disablement event).variableName) :
    ((generate system).arrive .plants values).values name = values name := by
  rw [(arrive_plants system values).2 name unflagged]
  exact followAll_of_flag distinct values flag

/-- So do the variables of events. -/
theorem arrive_plants_of_occurrence (values : Valuation) {event : Event}
    (known : event ∈ systemEvents system) :
    ((generate system).arrive .plants values).values (Signal.occurrence event).variableName =
      values (Signal.occurrence event).variableName :=
  arrive_plants_of_flag distinct values (.inl (occurrence_mem known)) fun _ other controllable =>
    distinct.occurrence_ne (occurrence_mem known) (command_mem other controllable).2

/-- So does the start request. -/
theorem arrive_plants_start (values : Valuation) :
    ((generate system).arrive .plants values).values Signal.start.variableName =
      values Signal.start.variableName :=
  arrive_plants_of_flag distinct values (.inr start_mem) fun _ _ _ =>
    Signal.variableName_ne rfl rfl (by decide)

/-- The plants' section meets the configuration in which the supervisors have followed. -/
theorem arrive_plants_represents {values : Valuation} {config : Configuration}
    (represents : Represents system values config) :
    Represents system ((generate system).arrive .plants values).values (followed values config) :=
  (followAll_represents distinct represents).of_eq fun _ listed =>
    arrive_plants_of_bit distinct values listed

omit distinct in
/-- The event of a plant's move is an event of the system. -/
theorem trigger_mem_systemEvents {move : PlantMove} (member : move.plant ∈ system.plants)
    (moves : move.transition ∈ move.plant.moves) :
    move.transition.trigger ∈ systemEvents system :=
  mem_systemEvents (plant_mem_components member)
    (move.plant.trigger_mem (Automaton.mem_moves.mp moves).1)

/-- A move is enabled in the plants' section exactly when the plant is in the origin and the event
is permitted. -/
theorem enabled_iff_permitted {values : Valuation} {config : Configuration}
    (represents : Represents system values config) {move : PlantMove}
    (member : move.plant ∈ system.plants) (moves : move.transition ∈ move.plant.moves) :
    move.enabled ((generate system).arrive .plants values).values = true ↔
      config (.plant move.plant) = move.transition.origin ∧
        Permitted system values (followed values config) move.transition.trigger := by
  have listed := plant_mem_components member
  have known := trigger_mem_systemEvents member moves
  have occupied : ((generate system).arrive .plants values).values
      (Signal.plantState move.plant.name move.transition.origin).variableName = true ↔
        move.transition.origin = config (.plant move.plant) :=
    (arrive_plants_represents distinct represents _ listed).bit_iff (distinct.bits_nodup listed)
      (move.plant.ends_mem (Automaton.mem_moves.mp moves).1).1
  rw [PlantMove.enabled, Rung.moveEnabled, Bool.and_eq_true, occupied, Permitted]
  refine and_congr eq_comm ?_
  by_cases commanded : move.transition.trigger.isControllable = true
  · have supervised (component : Component) (supervises : component ∈ supervisorComponents system) :
        component ∈ components system := List.mem_append_left _ supervises
    have forbidden := any_statesDisabling_iff
      (fun component supervises => distinct.bits_nodup (supervised component supervises))
      (fun component supervises =>
        followAll_represents distinct represents component (supervised component supervises))
      move.transition.trigger.name
    rw [if_pos commanded, if_pos commanded, (arrive_plants system values).1 _ known commanded,
      Bool.not_eq_true', ← Bool.not_eq_true, forbidden]
    simp only [not_exists, not_and]
  · rw [if_neg commanded, if_neg commanded, arrive_plants_of_occurrence distinct values known]

/-- What announces a move of a plant is no bit and not the start request. -/
theorem announced_flag {move : PlantMove} (known : move.transition.trigger ∈ systemEvents system)
    {name : String} (listed : name ∈ move.announced) :
    (name ∈ occurrenceNames system ∨ name ∈ commandNames system) ∧
      Signal.start.variableName ≠ name := by
  rcases List.mem_append.mp listed with petition | occurrence
  · by_cases commanded : move.transition.trigger.isControllable = true
    · rw [if_pos commanded, List.mem_singleton] at petition
      subst petition
      exact ⟨.inr (command_mem known commanded).1, Signal.variableName_ne rfl rfl (by decide)⟩
    · rw [if_neg commanded] at petition
      cases petition
  · rw [List.mem_singleton] at occurrence
    subst occurrence
    exact ⟨.inl (occurrence_mem known),
      (distinct.occurrence_ne (occurrence_mem known) start_mem).symm⟩

/-- The announcement of a move leaves every automaton in its state. -/
theorem announced_represents {values : Valuation} {config : Configuration}
    (represents : Represents system values config) {move : PlantMove}
    (known : move.transition.trigger ∈ systemEvents system) :
    Represents system (values.writeAll (move.announced.map fun name => (name, true))) config := by
  refine represents.of_eq fun bit listed => Valuation.writeAll_of_not_mem values ?_
  intro entry written
  obtain ⟨name, announced, rfl⟩ := List.mem_map.mp written
  exact distinct.bit_ne listed (announced_flag distinct known announced).1

omit distinct in
/-- The change of a plant's state writes nothing but bits of the plant. -/
theorem changes_of_not_mem (values : Valuation) {move : PlantMove}
    (moves : move.transition ∈ move.plant.moves) {name : String}
    (foreign : name ∉ (Component.plant move.plant).bits) :
    values.writeAll move.changes name = values name := by
  obtain ⟨origin, destination⟩ := move.plant.ends_mem (Automaton.mem_moves.mp moves).1
  refine Valuation.writeAll_of_not_mem values fun entry written same => ?_
  simp only [PlantMove.changes, List.mem_cons, List.not_mem_nil, or_false] at written
  rcases written with rfl | rfl
  · exact foreign (same ▸ Component.bit_mem destination)
  · exact foreign (same ▸ Component.bit_mem origin)

/-- The change of a plant's state from the one it is in represents the configuration with the plant
in the destination. -/
theorem changes_represents {values : Valuation} {config : Configuration}
    (represents : Represents system values config) {move : PlantMove}
    (member : move.plant ∈ system.plants) (moves : move.transition ∈ move.plant.moves)
    (origin : config (.plant move.plant) = move.transition.origin) :
    Represents system (values.writeAll move.changes)
      (Function.update config (.plant move.plant) move.transition.destination) := by
  have listed := plant_mem_components member
  obtain ⟨present, different⟩ := Automaton.mem_moves.mp moves
  intro component componentListed
  by_cases moved : component = .plant move.plant
  · subst moved
    rw [Function.update_self]
    have inOrigin := represents _ listed
    rw [origin] at inOrigin
    exact inOrigin.move (distinct.bits_nodup listed) (move.plant.ends_mem present).2 different
  · rw [Function.update_of_ne moved]
    exact (represents component componentListed).of_eq fun bit own =>
      changes_of_not_mem values moves fun shared =>
        moved (distinct.eq_of_shared componentListed listed own shared)

/-- A move sets what announces it and leaves all other variables of events and commands alone. -/
theorem writes_flag_iff (values : Valuation) {move : PlantMove}
    (member : move.plant ∈ system.plants) (moves : move.transition ∈ move.plant.moves)
    {name : String} (flag : name ∈ occurrenceNames system ∨ name ∈ commandNames system) :
    values.writeAll move.writes name = true ↔ values name = true ∨ name ∈ move.announced := by
  have foreign : name ∉ (Component.plant move.plant).bits := fun shared =>
    distinct.bit_ne (mem_stateBits (plant_mem_components member) shared) flag rfl
  rw [move.writes_eq, Valuation.writeAll_append, changes_of_not_mem _ moves foreign]
  by_cases announced : name ∈ move.announced
  · exact iff_of_true (Valuation.writeAll_of_mem values announced true) (.inr announced)
  · rw [Valuation.writeAll_of_not_mem values]
    · exact (or_iff_left announced).symm
    · intro entry written same
      obtain ⟨other, listed, rfl⟩ := List.mem_map.mp written
      exact announced (same ▸ listed)

/-- A plant's move from the state it is in represents the configuration with the plant in the
destination. What announces the move is true afterwards, and the start request is not touched. -/
theorem writes_represents {values : Valuation} {config : Configuration}
    (represents : Represents system values config) {move : PlantMove}
    (member : move.plant ∈ system.plants) (moves : move.transition ∈ move.plant.moves)
    (origin : config (.plant move.plant) = move.transition.origin) :
    Represents system (values.writeAll move.writes)
        (Function.update config (.plant move.plant) move.transition.destination) ∧
      (∀ name ∈ move.announced, values.writeAll move.writes name = true) ∧
      values.writeAll move.writes Signal.start.variableName = values Signal.start.variableName := by
  have known := trigger_mem_systemEvents member moves
  refine ⟨?_, ?_, ?_⟩
  · rw [move.writes_eq, Valuation.writeAll_append]
    exact changes_represents distinct (announced_represents distinct represents known) member moves
      origin
  · intro name announced
    have flag := (announced_flag distinct known announced).1
    exact (writes_flag_iff distinct values member moves flag).mpr (.inr announced)
  · rw [Bool.eq_iff_iff, writes_flag_iff distinct values member moves (.inr start_mem)]
    exact or_iff_left fun announced => (announced_flag distinct known announced).2 rfl

end Distinct

end SupervisoryLadder.Ladder
