import SupervisoryLadder.Model.Document
import SupervisoryLadder.Project.Export
import SupervisoryLadder.Proofs.Computations
import SupervisoryLadder.Proofs.Unmarked

/-!
# Markings in model documents

A document declares markings in the states lists of its automata, and the declarations may repeat
and contradict each other. Resolution gives every name of an automaton one marking, the last one
that is declared, and uses it wherever the name occurs. So the automata of a resolved document are
marked by name, and taking the marks out of the document is the same as taking them out of the
system. References to events are looked up without regard to states. Together: documents that differ
in marks only are both refused, for the same reference, or have the same program.
-/

namespace SupervisoryLadder.Model

/-- The entry of a state without its mark. -/
def StateEntry.unmarked (entry : StateEntry) : StateEntry := { entry with marked := false }

namespace AutomatonEntry

/-- The entry of an automaton with all marks taken out of its states list. -/
def unmarked (entry : AutomatonEntry) : AutomatonEntry :=
  { entry with states := entry.states.map StateEntry.unmarked }

/-- Without marks every name stands for its unmarked state. -/
theorem state_unmarked (entry : AutomatonEntry) (name : String) :
    entry.unmarked.state name = (entry.state name).unmarked := by
  have unmarkedName : entry.unmarked.marking name = .unmarked := by
    have renamed : entry.unmarked.states = entry.states.map StateEntry.unmarked := rfl
    rw [marking, renamed, List.filter_map, List.getLast?_map]
    cases (entry.states.filter _).getLast? with
    | none => rfl
    | some state => rfl
  rw [state, unmarkedName]
  rfl

/-- A transition is looked up in the same way and joins the unmarked states. -/
theorem transition_unmarked (entry : AutomatonEntry) (events : List Event)
    (step : TransitionEntry) :
    entry.unmarked.transition events step =
      (entry.transition events step).map Transition.unmarked := by
  have sameLookUp : entry.unmarked.lookUp events step.trigger = entry.lookUp events step.trigger :=
    rfl
  rw [transition, transition, sameLookUp, state_unmarked, state_unmarked]
  cases entry.lookUp events step.trigger with
  | error reference => rfl
  | ok trigger => rfl

/-- The automaton of an entry whose references are resolved. -/
def automaton (entry : AutomatonEntry) (transitions : List Transition) (alphabet : List Event) :
    Automaton :=
  ((Automaton.build entry.name (entry.state entry.initial) transitions).withStates
    (entry.states.map fun state => entry.state state.name)).withEvents alphabet

/-- An entry is resolved to its automaton when all its references are known. -/
theorem resolve_eq (entry : AutomatonEntry) (events : List Event) :
    entry.resolve events = (do
      let transitions ← entry.transitions.mapM (entry.transition events)
      let alphabet ← entry.events.mapM (entry.lookUp events)
      return entry.automaton transitions alphabet) := rfl

/-- The states of the automaton, before repetitions go. -/
theorem states_automaton (entry : AutomatonEntry) (transitions : List Transition)
    (alphabet : List Event) :
    (entry.automaton transitions alphabet).states =
      (entry.state entry.initial :: transitions.flatMap Transition.ends ++
        entry.states.map fun declared => entry.state declared.name).eraseDups :=
  Distinct.eraseDups_eraseDups_append _ _

/-- The alphabet of the automaton, before repetitions go. -/
theorem events_automaton (entry : AutomatonEntry) (transitions : List Transition)
    (alphabet : List Event) :
    (entry.automaton transitions alphabet).events =
      (transitions.map Transition.trigger ++ alphabet).eraseDups :=
  Distinct.eraseDups_eraseDups_append _ _

/-- The states of a resolved automaton are the states of their names. -/
theorem eq_state_of_mem {entry : AutomatonEntry} {events : List Event}
    {transitions : List Transition} {alphabet : List Event}
    (resolved : entry.transitions.mapM (entry.transition events) = .ok transitions) {state : State}
    (member : state ∈ (entry.automaton transitions alphabet).states) :
    state = entry.state state.name := by
  have ofTransition {transition : Transition} (listed : transition ∈ transitions) :
      transition.origin = entry.state transition.origin.name ∧
        transition.destination = entry.state transition.destination.name := by
    obtain ⟨step, -, found⟩ := mem_of_mapM_ok resolved listed
    obtain ⟨event, -, finished⟩ := bind_eq_ok.mp found
    cases finished
    exact ⟨rfl, rfl⟩
  rw [states_automaton, List.mem_eraseDups, List.mem_append, List.mem_cons] at member
  rcases member with (rfl | ofEnd) | declared
  · rfl
  · obtain ⟨transition, present, isEnd⟩ := List.mem_flatMap.mp ofEnd
    obtain ⟨origin, destination⟩ := ofTransition present
    simp only [Transition.ends, List.mem_cons, List.not_mem_nil, or_false] at isEnd
    rcases isEnd with rfl | rfl
    · exact origin
    · exact destination
  · obtain ⟨declaration, -, rfl⟩ := List.mem_map.mp declared
    rfl

/-- So they are marked by name, however often and however differently a name is declared. -/
theorem automaton_markedByName {entry : AutomatonEntry} {events : List Event}
    {transitions : List Transition}
    (resolved : entry.transitions.mapM (entry.transition events) = .ok transitions)
    (alphabet : List Event) : (entry.automaton transitions alphabet).MarkedByName := by
  intro state member other otherMember sameName
  rw [eq_state_of_mem resolved member, eq_state_of_mem resolved otherMember, sameName]

/-- Taking the marks out of an entry takes them out of its automaton. -/
theorem resolve_unmarked (entry : AutomatonEntry) (events : List Event) :
    entry.unmarked.resolve events = (entry.resolve events).map Automaton.unmarked := by
  have sameLookUp : entry.unmarked.lookUp events = entry.lookUp events := rfl
  have steps : entry.unmarked.transitions.mapM (entry.unmarked.transition events) =
      (entry.transitions.mapM (entry.transition events)).map (List.map Transition.unmarked) :=
    mapM_rename (entry.transition_unmarked events) entry.transitions
  rw [resolve_eq, resolve_eq, steps, sameLookUp]
  cases resolved : entry.transitions.mapM (entry.transition events) with
  | error reference => rfl
  | ok transitions =>
    show (do
      let alphabet ← entry.events.mapM (entry.lookUp events)
      return entry.unmarked.automaton (transitions.map Transition.unmarked) alphabet) = _
    cases entry.events.mapM (entry.lookUp events) with
    | error reference => rfl
    | ok alphabet =>
      have declared : (entry.unmarked.states.map fun state => entry.unmarked.state state.name) =
          (entry.states.map fun state => entry.state state.name).map State.unmarked := by
        show ((entry.states.map StateEntry.unmarked).map _) = _
        rw [List.map_map, List.map_map]
        apply List.map_congr_left
        intro state _
        exact entry.state_unmarked state.name
      have unmarkedAutomaton :
          entry.unmarked.automaton (transitions.map Transition.unmarked) alphabet =
            (entry.automaton transitions alphabet).unmarked := by
        rw [automaton, automaton, declared, state_unmarked,
          Automaton.unmarked_build (automaton_markedByName resolved alphabet)]
        rfl
      exact congrArg Except.ok unmarkedAutomaton

/-- Every automaton that comes from an entry is marked by name. -/
theorem resolve_markedByName {entry : AutomatonEntry} {events : List Event} {automaton : Automaton}
    (resolved : entry.resolve events = .ok automaton) : automaton.MarkedByName := by
  rw [resolve_eq] at resolved
  obtain ⟨transitions, steps, following⟩ := bind_eq_ok.mp resolved
  obtain ⟨alphabet, -, finished⟩ := bind_eq_ok.mp following
  cases finished
  exact automaton_markedByName steps alphabet

end AutomatonEntry

namespace Document

/-- The document with all marks taken out of its states lists. -/
def unmarked (document : Document) : Document :=
  { document with
    supervisors := document.supervisors.map AutomatonEntry.unmarked
    plants := document.plants.map AutomatonEntry.unmarked }

/-- The automata of a document are resolved in the same way without their marks. -/
theorem mapM_resolve_unmarked (entries : List AutomatonEntry) (events : List Event) :
    (entries.map AutomatonEntry.unmarked).mapM (AutomatonEntry.resolve · events) =
      (entries.mapM (AutomatonEntry.resolve · events)).map (List.map Automaton.unmarked) := by
  rw [List.mapM_map]
  exact mapM_rename (fun entry : AutomatonEntry => entry.resolve_unmarked events) entries

/-- Taking the marks out of a document takes them out of its system, and leaves an unknown
reference as it is. -/
theorem resolve_unmarked (document : Document) :
    document.unmarked.resolve = document.resolve.map ControlSystem.unmarked := by
  have sameEvents : document.unmarked.eventList = document.eventList := rfl
  rw [resolve, resolve, sameEvents]
  show (do
    let supervisors ← (document.supervisors.map AutomatonEntry.unmarked).mapM
      (AutomatonEntry.resolve · document.eventList)
    let plants ← (document.plants.map AutomatonEntry.unmarked).mapM
      (AutomatonEntry.resolve · document.eventList)
    return ControlSystem.mk supervisors plants document.eventList) = _
  rw [mapM_resolve_unmarked, mapM_resolve_unmarked]
  cases document.supervisors.mapM (AutomatonEntry.resolve · document.eventList) with
  | error reference => rfl
  | ok supervisors =>
    cases document.plants.mapM (AutomatonEntry.resolve · document.eventList) with
    | error reference => rfl
    | ok plants => rfl

/-- Every automaton of a resolved document comes from an entry. -/
theorem exists_entry_of_resolve {document : Document} {system : ControlSystem}
    (resolved : document.resolve = .ok system) {automaton : Automaton}
    (member : automaton ∈ system.supervisors ++ system.plants) :
    ∃ entry ∈ document.supervisors ++ document.plants,
      entry.resolve document.eventList = .ok automaton := by
  obtain ⟨supervisors, supervising, following⟩ := bind_eq_ok.mp resolved
  obtain ⟨plants, controlled, finished⟩ := bind_eq_ok.mp following
  cases finished
  rcases List.mem_append.mp member with supervises | controls
  · obtain ⟨entry, listed, found⟩ := mem_of_mapM_ok supervising supervises
    exact ⟨entry, List.mem_append_left _ listed, found⟩
  · obtain ⟨entry, listed, found⟩ := mem_of_mapM_ok controlled controls
    exact ⟨entry, List.mem_append_right _ listed, found⟩

/-- The automata of a resolved document are marked by name. -/
theorem resolve_markedByName {document : Document} {system : ControlSystem}
    (resolved : document.resolve = .ok system) : system.MarkedByName := by
  intro automaton member
  obtain ⟨entry, -, found⟩ := exists_entry_of_resolve resolved member
  exact AutomatonEntry.resolve_markedByName found

/-- Markings do not influence what is generated. Let two documents be equal when all marks are taken
out of their states lists. Then either both refer to an unknown event, and the reference that is
reported is the same, or both describe a control system, and the two systems have the same program,
hence the same project document under all options. -/
theorem markings_leave_program (first second : Document)
    (same : first.unmarked = second.unmarked) :
    (∃ reference, first.resolve = .error reference ∧ second.resolve = .error reference) ∨
      ∃ system other, first.resolve = .ok system ∧ second.resolve = .ok other ∧
        Ladder.generate system = Ladder.generate other ∧
        ∀ options now, Project.render (Ladder.generate system) options now =
          Project.render (Ladder.generate other) options now := by
  have outcomes : first.resolve.map ControlSystem.unmarked =
      second.resolve.map ControlSystem.unmarked := by
    rw [← resolve_unmarked, ← resolve_unmarked, same]
  rcases map_eq_map outcomes with refused | ⟨system, other, resolved, otherResolved, sameUnmarked⟩
  · exact .inl refused
  · right
    have sameProgram : Ladder.generate system = Ladder.generate other := by
      rw [← Ladder.generate_unmarked (resolve_markedByName resolved), sameUnmarked,
        Ladder.generate_unmarked (resolve_markedByName otherResolved)]
    refine ⟨system, other, resolved, otherResolved, sameProgram, ?_⟩
    intro options now
    rw [sameProgram]

namespace Motor

/-- A motor whose initial state is declared twice. -/
def declared (first last : Bool) : Document :=
  ⟨[⟨"start", false⟩, ⟨"stop", true⟩], [],
    [⟨"M", "off", [⟨"off", first⟩, ⟨"off", last⟩, ⟨"spare", first⟩], ["stop"],
      [⟨"off", "start", "on"⟩, ⟨"on", "stop", "off"⟩]⟩]⟩

/-- The system with the motor whose states have these markings. -/
def described (off spare : Marking) : ControlSystem :=
  let start : Event := ⟨"start", .uncontrollable⟩
  let stop : Event := ⟨"stop", .controllable⟩
  ⟨[], [((Automaton.build "M" ⟨"off", off⟩
      [⟨⟨"off", off⟩, start, ⟨"on", .unmarked⟩⟩,
        ⟨⟨"on", .unmarked⟩, stop, ⟨"off", off⟩⟩]).withStates
          [⟨"off", off⟩, ⟨"spare", spare⟩]).withEvents [stop]],
    [start, stop]⟩

end Motor

/-- Contradictory marks: the last declaration counts, so the two documents describe different
systems, and these have the same program. -/
theorem contradictory_marks_leave_program :
    (Motor.declared true false).unmarked = (Motor.declared false true).unmarked ∧
      (Motor.declared true false).resolve = .ok (Motor.described .unmarked .marked) ∧
      (Motor.declared false true).resolve = .ok (Motor.described .marked .unmarked) ∧
      Motor.described .unmarked .marked ≠ Motor.described .marked .unmarked ∧
      Ladder.generate (Motor.described .unmarked .marked) =
        Ladder.generate (Motor.described .marked .unmarked) := by
  have same : (Motor.declared true false).unmarked = (Motor.declared false true).unmarked := by
    decide
  have resolved : (Motor.declared true false).resolve =
      .ok (Motor.described .unmarked .marked) := rfl
  have otherResolved : (Motor.declared false true).resolve =
      .ok (Motor.described .marked .unmarked) := rfl
  refine ⟨same, resolved, otherResolved, by decide, ?_⟩
  rcases markings_leave_program _ _ same with ⟨reference, refused, -⟩ |
    ⟨system, other, accepted, otherAccepted, program, -⟩
  · rw [resolved] at refused
    cases refused
  · rw [Except.ok.inj (resolved.symm.trans accepted),
      Except.ok.inj (otherResolved.symm.trans otherAccepted)]
    exact program

end Document

end SupervisoryLadder.Model
