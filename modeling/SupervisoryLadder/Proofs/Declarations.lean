import SupervisoryLadder.Project.Export
import SupervisoryLadder.Proofs.ByteOrder
import SupervisoryLadder.Proofs.SectionBlocks
import SupervisoryLadder.Proofs.SignalNames
import SupervisoryLadder.Proofs.SupervisorStep

/-!
# The variables that a project declares

A project declares the variables that the contacts and coils of its program use. For a generated
program this set is known before any rung is drawn: `Used` reads it off the automata, clause by
clause. Rungs group, sort and drop parts of the model, but every variable of a rung comes from one
of these clauses, and every clause has a rung that uses its variable. Bits of states that nothing
moves to or from, and the events of self-loops, are not declared unless another clause names them.
-/

namespace SupervisoryLadder

namespace Ladder

/-- Renaming what feeds a part keeps its variable. -/
theorem Part.operand?_map {ρ σ : Type} (rename : ρ → σ) (part : Part ρ) :
    (part.map rename).operand? = part.operand? := by
  cases part <;> rfl

namespace Rung

/-- The variables of the contacts and coils of a rung, in order. -/
def operands (rung : Rung) : List String := rung.filterMap Part.operand?

/-- The variables of a rung do not depend on where it is placed. -/
theorem operands_place (base : Nat) (rung : Rung) :
    (place base rung).filterMap Element.operand? = rung.operands := by
  calc (place base rung).filterMap Element.operand?
      = ((place base rung).map Element.part).filterMap Part.operand? := by
        rw [List.filterMap_map]
        rfl
    _ = (rung.map (Part.map (Feed.locate base))).filterMap Part.operand? := by
        rw [place_eq_placeFrom, parts_placeFrom]
    _ = rung.operands := by
        rw [List.filterMap_map]
        exact congrArg (rung.filterMap ·) (funext (Part.operand?_map _))

/-- Rungs that are laid out use the variables of all of them. -/
theorem operands_layout (base : Nat) (rungs : List Rung) :
    (layout base rungs).filterMap Element.operand? = rungs.flatMap operands := by
  induction rungs generalizing base with
  | nil => rfl
  | cons rung rest inductionHypothesis =>
    rw [layout, List.filterMap_append, operands_place, inductionHypothesis, List.flatMap_cons]

/-- Parts made from items use the variables they are made with. -/
theorem operands_map {α : Type} {items : List α} {part : α → Part Feed} {name : α → String}
    (uses : ∀ item, (part item).operand? = some (name item)) :
    operands (items.map part) = items.map name := by
  rw [operands, List.filterMap_map, ← List.filterMap_eq_map]
  exact congrArg (items.filterMap ·) (funext uses)

theorem operands_append (front back : Rung) :
    operands (front ++ back) = operands front ++ operands back :=
  List.filterMap_append

/-- A supervisor's rung uses its two bits and the variables of its events. -/
theorem mem_operands_supervisorMove {index : Nat} {origin destination : State}
    {events : List Event} {name : String} :
    name ∈ operands (supervisorMove index origin destination events) ↔
      name = (Signal.supervisorState index origin).variableName ∨
        name = (Signal.supervisorState index destination).variableName ∨
          ∃ event ∈ events, (Signal.occurrence event).variableName = name := by
  have guards : operands (events.map fun event => contact (.occurrence event) [.member 2]) =
      events.map fun event => (Signal.occurrence event).variableName :=
    operands_map fun _ => rfl
  rw [supervisorMove, operands_append, operands_append, guards, List.mem_append, List.mem_append,
    List.mem_map]
  simp only [operands, header, contact, coil, Part.operand?, List.cons_append, List.nil_append,
    List.filterMap_cons, List.filterMap_nil, List.mem_cons, List.not_mem_nil, or_false]
  constructor
  · rintro ((origin | occurrence) | destination | origin)
    · exact .inl origin
    · exact .inr (.inr occurrence)
    · exact .inr (.inl destination)
    · exact .inl origin
  · rintro (origin | destination | occurrence)
    · exact .inl (.inl origin)
    · exact .inr (.inl destination)
    · exact .inl (.inr occurrence)

/-- The rung of a flag uses the flag and the variables that forbid its event. -/
theorem operands_disablementFlag (event : Event) (states : List String) :
    operands (disablementFlag event states) =
      states ++ [(Signal.disablement event).variableName] := by
  have contacts : operands (states.map fun state => Part.contact state false [.rail]) =
      states.map id := operands_map fun _ => rfl
  rw [disablementFlag, operands_append, operands_append, contacts, List.map_id]
  rfl

/-- A plant's rung uses its two bits and the variable of its event, and for a commanded event also
the flag and the petition. -/
theorem mem_operands_plantMove {plant : String} {transition : Transition} {name : String} :
    name ∈ operands (plantMove plant transition) ↔
      name = (Signal.plantState plant transition.origin).variableName ∨
        name = (Signal.plantState plant transition.destination).variableName ∨
          name = (Signal.occurrence transition.trigger).variableName ∨
            transition.trigger.isControllable = true ∧
              (name = (Signal.petition transition.trigger).variableName ∨
                name = (Signal.disablement transition.trigger).variableName) := by
  by_cases commanded : transition.trigger.isControllable = true
  · simp only [operands, plantMove, header, contact, negatedContact, coil, Part.operand?,
      commanded, if_true, true_and, List.cons_append, List.nil_append, List.filterMap_cons,
      List.filterMap_nil, List.mem_cons, List.not_mem_nil, or_false]
    grind
  · simp only [operands, plantMove, header, contact, coil, Part.operand?, commanded, if_false,
      Bool.false_eq_true, false_and, or_false, List.cons_append, List.nil_append,
      List.filterMap_cons, List.filterMap_nil, List.mem_cons, List.not_mem_nil]
    grind

/-- The rung of the start request uses the request and the bits that it sets. -/
theorem operands_start (signals : List Signal) :
    operands (start signals) = Signal.start.variableName :: signals.map Signal.variableName := by
  have coils : operands (signals.map fun signal => coil signal .set [.member 2]) =
      signals.map Signal.variableName := operands_map fun _ => rfl
  rw [start, operands_append, coils]
  rfl

end Rung

/-- A program uses the variables of its contacts and coils. -/
theorem Program.mem_operands {program : Program} {name : String} :
    name ∈ program.operands.names ↔ name ∈ program.elements.filterMap Element.operand? :=
  NameSet.mem_ofList _ name

/-- The variables of a generated program are those of its rungs: rails and labels have none. -/
theorem mem_operands_generate {system : ControlSystem} {name : String} :
    name ∈ (generate system).operands.names ↔
      ∃ place rung, RungOf system place rung ∧ name ∈ rung.operands := by
  have body (place : Section) : (sectionBody system place).filterMap Element.operand? =
      (sectionRungs system place).flatMap Rung.operands := Rung.operands_layout _ _
  have whole : (generate system).elements.filterMap Element.operand? =
      Section.all.flatMap fun place => (sectionRungs system place).flatMap Rung.operands := by
    simp only [generate_elements, List.filterMap_cons, List.filterMap_append, body, sectionLabel,
      Element.operand?, Part.operand?, List.filterMap_nil, Section.all, List.flatMap_cons,
      List.flatMap_nil]
  rw [Program.mem_operands, whole, List.mem_flatMap]
  constructor
  · rintro ⟨place, -, inside⟩
    obtain ⟨rung, listed, used⟩ := List.mem_flatMap.mp inside
    exact ⟨place, rung, rungOf_mem listed, used⟩
  · rintro ⟨place, rung, rungOf, used⟩
    refine ⟨place, ?_, List.mem_flatMap.mpr ⟨rung, rungOf.mem, used⟩⟩
    cases place <;> decide

/-- What every move of an automaton reads and writes: the bits of its ends and the variable of its
event. -/
def Component.moveNames (component : Component) (transition : Transition) : List String :=
  [component.bit transition.origin, component.bit transition.destination,
    (Signal.occurrence transition.trigger).variableName]

theorem Component.mem_moveNames {component : Component} {transition : Transition} {name : String} :
    name ∈ component.moveNames transition ↔
      name = component.bit transition.origin ∨ name = component.bit transition.destination ∨
        name = (Signal.occurrence transition.trigger).variableName := by
  simp [moveNames]

/-- The variables that a system needs, read off its automata: the start request and what it enters,
what the transitions between different states read and write, and the flags of the controllable
events with all variables that they depend on. -/
inductive Used (system : ControlSystem) : String → Prop
  | start : Used system Signal.start.variableName
  | initial {component : Component} (listed : component ∈ components system) :
      Used system (component.bit component.automaton.initial)
  | move {component : Component} {transition : Transition} {name : String}
      (listed : component ∈ components system)
      (present : transition ∈ component.automaton.transitions)
      (moves : transition.origin ≠ transition.destination)
      (member : name ∈ component.moveNames transition) : Used system name
  | petition {plant : Automaton} {transition : Transition} (listed : plant ∈ system.plants)
      (present : transition ∈ plant.transitions)
      (moves : transition.origin ≠ transition.destination)
      (controllable : transition.trigger.isControllable = true) :
      Used system (Signal.petition transition.trigger).variableName
  | flag {event : Event} (known : event ∈ systemEvents system)
      (controllable : event.isControllable = true) :
      Used system (Signal.disablement event).variableName
  | forbidding {event : Event} {name : String} (known : event ∈ systemEvents system)
      (controllable : event.isControllable = true)
      (forbids : name ∈
        (Disablement.ofSupervisors system.supervisors).statesDisabling event.name) :
      Used system name

/-- A transition between different states has a rung that uses its ends and its event. -/
theorem exists_rung_of_move {system : ControlSystem} {component : Component}
    {transition : Transition} (listed : component ∈ components system)
    (moves : transition ∈ component.automaton.moves) :
    ∃ place rung, RungOf system place rung ∧
      ∀ name ∈ component.moveNames transition, name ∈ Rung.operands rung := by
  rcases List.mem_append.mp listed with supervises | controlled
  · obtain ⟨entry, present, rfl⟩ := List.mem_map.mp supervises
    refine ⟨_, _, .move present (mem_movePairs.mpr ⟨transition, moves, rfl⟩), ?_⟩
    have trigger : transition.trigger ∈
        moveEvents entry.1 transition.origin transition.destination :=
      mem_moveEvents.mpr ⟨transition, moves, rfl, rfl, rfl⟩
    intro name member
    rw [Rung.mem_operands_supervisorMove]
    rcases Component.mem_moveNames.mp member with origin | destination | occurrence
    · exact .inl origin
    · exact .inr (.inl destination)
    · exact .inr (.inr ⟨_, trigger, occurrence.symm⟩)
  · obtain ⟨plant, present, rfl⟩ := List.mem_map.mp controlled
    refine ⟨_, _, .plant present moves, ?_⟩
    intro name member
    rw [Rung.mem_operands_plantMove]
    rcases Component.mem_moveNames.mp member with origin | destination | occurrence
    · exact .inl origin
    · exact .inr (.inl destination)
    · exact .inr (.inr (.inl occurrence))

/-- What a rung uses is one of the listed variables. -/
theorem RungOf.used {system : ControlSystem} {place : Section} {rung : Rung}
    (rungOf : RungOf system place rung) {name : String} (member : name ∈ rung.operands) :
    Used system name := by
  cases rungOf with
  | @move entry pair present joined =>
    have listed := supervisor_mem_components present
    rcases Rung.mem_operands_supervisorMove.mp member with rfl | rfl | ⟨event, known, rfl⟩
    · obtain ⟨transition, moves, rfl⟩ := mem_movePairs.mp joined
      obtain ⟨declared, different⟩ := Automaton.mem_moves.mp moves
      exact .move listed declared different (Component.mem_moveNames.mpr (.inl rfl))
    · obtain ⟨transition, moves, rfl⟩ := mem_movePairs.mp joined
      obtain ⟨declared, different⟩ := Automaton.mem_moves.mp moves
      exact .move listed declared different (Component.mem_moveNames.mpr (.inr (.inl rfl)))
    · obtain ⟨transition, moves, -, -, rfl⟩ := mem_moveEvents.mp known
      obtain ⟨declared, different⟩ := Automaton.mem_moves.mp moves
      exact .move listed declared different (Component.mem_moveNames.mpr (.inr (.inr rfl)))
  | @flag event flagged =>
    obtain ⟨known, controllable⟩ := (flaggedEvents_exact system).1 event flagged
    rw [Rung.operands_disablementFlag, List.mem_append, List.mem_singleton] at member
    rcases member with forbids | rfl
    · exact .forbidding known controllable forbids
    · exact .flag known controllable
  | @plant plant transition present moves =>
    have listed := plant_mem_components present
    obtain ⟨declared, different⟩ := Automaton.mem_moves.mp moves
    rcases Rung.mem_operands_plantMove.mp member with
      rfl | rfl | rfl | ⟨controllable, rfl | rfl⟩
    · exact .move listed declared different (Component.mem_moveNames.mpr (.inl rfl))
    · exact .move listed declared different (Component.mem_moveNames.mpr (.inr (.inl rfl)))
    · exact .move listed declared different (Component.mem_moveNames.mpr (.inr (.inr rfl)))
    · exact .petition present declared different controllable
    · exact .flag (mem_systemEvents listed (plant.trigger_mem declared)) controllable
  | start =>
    rw [Rung.operands_start, initialSignals_names, List.mem_cons, List.mem_map] at member
    rcases member with rfl | ⟨component, listed, rfl⟩
    · exact .start
    · exact .initial listed

/-- Each of the listed variables is used by a rung. -/
theorem Used.exists_rung {system : ControlSystem} {name : String} (used : Used system name) :
    ∃ place rung, RungOf system place rung ∧ name ∈ Rung.operands rung := by
  have flagRung {event : Event} (known : event ∈ systemEvents system)
      (controllable : event.isControllable = true) :
      ∃ rung, RungOf system .disablement rung ∧ rung.operands =
        (Disablement.ofSupervisors system.supervisors).statesDisabling event.name ++
          [(Signal.disablement event).variableName] := by
    obtain ⟨flagged, listed, sameName⟩ := (flaggedEvents_exact system).2 event known controllable
    refine ⟨_, .flag listed, ?_⟩
    rw [Rung.operands_disablementFlag, sameName, Signal.disablement_eq_iff.mpr sameName]
  cases used with
  | start =>
    refine ⟨_, _, .start, ?_⟩
    rw [Rung.operands_start]
    exact List.mem_cons_self
  | initial listed =>
    refine ⟨_, _, .start, ?_⟩
    rw [Rung.operands_start, initialSignals_names]
    exact List.mem_cons_of_mem _ (List.mem_map.mpr ⟨_, listed, rfl⟩)
  | move listed present moves member =>
    obtain ⟨place, rung, rungOf, uses⟩ :=
      exists_rung_of_move listed (Automaton.mem_moves.mpr ⟨present, moves⟩)
    exact ⟨place, rung, rungOf, uses name member⟩
  | petition listed present moves controllable =>
    refine ⟨_, _, .plant listed (Automaton.mem_moves.mpr ⟨present, moves⟩), ?_⟩
    rw [Rung.mem_operands_plantMove]
    exact .inr (.inr (.inr ⟨controllable, .inl rfl⟩))
  | flag known controllable =>
    obtain ⟨rung, rungOf, operands⟩ := flagRung known controllable
    refine ⟨_, rung, rungOf, ?_⟩
    rw [operands]
    exact List.mem_append_right _ (List.mem_singleton_self _)
  | forbidding known controllable forbids =>
    obtain ⟨rung, rungOf, operands⟩ := flagRung known controllable
    refine ⟨_, rung, rungOf, ?_⟩
    rw [operands]
    exact List.mem_append_left _ forbids

end Ladder

namespace Project

/-- The declarations of the project of a control system, whatever it is called and dated. Its only
program unit declares the variables of the program. They ascend strictly by bytes, and as a set they
are exactly those that the automata of the system need. -/
theorem declares_exactly_used (system : ControlSystem) (options : Options) (date : String) :
    let declared := (Ladder.generate system).operands.names
    (documentOf (Ladder.generate system) options date).units.map ProgramUnit.declared =
        [declared] ∧
      (declared.map ByteOrder.bytes).Pairwise (· < ·) ∧
        ∀ name, name ∈ declared ↔ Ladder.Used system name := by
  intro declared
  refine ⟨rfl, ByteOrder.ascending_bytes (Ladder.generate system).operands.ascending, ?_⟩
  intro name
  rw [Ladder.mem_operands_generate]
  constructor
  · rintro ⟨place, rung, rungOf, member⟩
    exact rungOf.used member
  · exact Ladder.Used.exists_rung

end Project

end SupervisoryLadder
