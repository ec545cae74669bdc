import SupervisoryLadder.Proofs.DisablementMap
import SupervisoryLadder.Proofs.Passage
import SupervisoryLadder.Proofs.SignalKinds

/-!
# The disablement flags

Every controllable event of a system has a rung that recomputes its flag from supervisor bits. A
flag never has the name of a supervisor bit, so no rung feeds another one: all flags are functions
of the valuation at the label of the section, whatever they were before. With every supervisor in
one state, a flag is true exactly when some supervisor forbids the event in its state.
-/

namespace SupervisoryLadder.Ladder

/-- The flags of the events, recomputed in order from the variables that `states` gives by name. -/
def raiseFlags (states : String → List String) (events : List Event) (values : Valuation) :
    Valuation :=
  events.foldl (fun values event => Rung.raiseFlag event (states event.name) values) values

/-- Only flags of the events change. -/
theorem raiseFlags_of_ne (states : String → List String) {events : List Event} {name : String}
    (unflagged : ∀ event ∈ events, name ≠ (Signal.disablement event).variableName)
    (values : Valuation) : raiseFlags states events values name = values name := by
  induction events generalizing values with
  | nil => rfl
  | cons event rest inductionHypothesis =>
    rw [raiseFlags, List.foldl_cons]
    refine (inductionHypothesis (fun other member =>
      unflagged other (List.mem_cons_of_mem _ member)) _).trans ?_
    exact Valuation.write_of_ne values (unflagged event List.mem_cons_self) _

/-- Every flag is computed from the valuation before all of them. The last event of a name decides;
the flags written before it are none of the variables that it reads. -/
theorem raiseFlags_flag {states : String → List String}
    (separate : ∀ event bit, bit ∈ states event →
      ∀ other, bit ≠ (Signal.disablement other).variableName)
    {events : List Event} {event : Event} (member : event ∈ events) (values : Valuation) :
    raiseFlags states events values (Signal.disablement event).variableName =
      (states event.name).any values := by
  induction events generalizing event values with
  | nil => cases member
  | cons head rest inductionHypothesis =>
    let raised := Rung.raiseFlag head (states head.name) values
    have unread : (states event.name).any raised = (states event.name).any values := by
      have kept : ∀ bit ∈ states event.name, raised bit = values bit := fun bit listed =>
        Valuation.write_of_ne values (separate event.name bit listed head) _
      rw [Bool.eq_iff_iff, List.any_eq_true, List.any_eq_true]
      exact exists_congr fun bit => and_congr_right fun listed => by rw [kept bit listed]
    show raiseFlags states rest raised _ = _
    by_cases later : ∃ other ∈ rest, other.name = event.name
    · obtain ⟨other, present, sameName⟩ := later
      rw [Signal.disablement_eq_iff.mpr sameName.symm, inductionHypothesis present raised, sameName,
        unread]
    · have first : event = head := (List.mem_cons.mp member).resolve_right fun present =>
        later ⟨event, present, rfl⟩
      subst first
      rw [raiseFlags_of_ne states fun other present same =>
        later ⟨other, present, (Signal.disablement_eq_iff.mp same).symm⟩]
      exact Valuation.write_self values _ _

/-- The events with a flag are among those of the list. -/
theorem mem_of_mem_firstOfName {events : List Event} {event : Event}
    (member : event ∈ firstOfName events) : event ∈ events := by
  induction events with
  | nil => cases member
  | cons head rest inductionHypothesis =>
    rcases List.mem_cons.mp member with rfl | later
    · exact List.mem_cons_self
    · exact List.mem_cons_of_mem _ (inductionHypothesis (List.mem_filter.mp later).1)

/-- Every name of the list keeps an event. -/
theorem exists_firstOfName {events : List Event} {event : Event} (member : event ∈ events) :
    ∃ first ∈ firstOfName events, first.name = event.name := by
  induction events with
  | nil => cases member
  | cons head rest inductionHypothesis =>
    by_cases same : head.name = event.name
    · exact ⟨head, List.mem_cons_self, same⟩
    · rcases List.mem_cons.mp member with rfl | later
      · exact absurd rfl same
      · obtain ⟨first, kept, sameName⟩ := inductionHypothesis later
        refine ⟨first, List.mem_cons_of_mem _ (List.mem_filter.mpr ⟨kept, ?_⟩), sameName⟩
        simpa [sameName] using Ne.symm same

/-- The events of a system: those of the global list and those of the automata's alphabets. -/
def systemEvents (system : ControlSystem) : List Event :=
  system.events ++ (system.supervisors ++ system.plants).flatMap Automaton.events

/-- The alphabet of every automaton belongs to the events of the system. -/
theorem mem_systemEvents {system : ControlSystem} {component : Component}
    (member : component ∈ components system) {event : Event}
    (known : event ∈ component.automaton.events) : event ∈ systemEvents system := by
  refine List.mem_append_right _ (List.mem_flatMap.mpr ⟨component.automaton, ?_, known⟩)
  rcases List.mem_append.mp member with supervises | controlled
  · obtain ⟨index, supervisor, present, rfl⟩ := mem_supervisorComponents.mp supervises
    exact List.mem_append_left _ (List.mem_of_getElem? present)
  · obtain ⟨plant, present, rfl⟩ := List.mem_map.mp controlled
    exact List.mem_append_right _ present

/-- The events with a flag are controllable events of the system, and every name of such an event is
among theirs. -/
theorem flaggedEvents_exact (system : ControlSystem) :
    (∀ event ∈ flaggedEvents system, event ∈ systemEvents system ∧ event.isControllable = true) ∧
      ∀ event ∈ systemEvents system, event.isControllable = true →
        ∃ flagged ∈ flaggedEvents system, flagged.name = event.name := by
  constructor
  · intro event member
    exact List.mem_filter.mp (mem_of_mem_firstOfName member)
  · intro event member controllable
    exact exists_firstOfName (List.mem_filter.mpr ⟨member, controllable⟩)

/-- The variables that forbid an event are the bits of the states in which a supervisor forbids
it. -/
theorem mem_statesDisabling (system : ControlSystem) (event bit : String) :
    bit ∈ (Disablement.ofSupervisors system.supervisors).statesDisabling event ↔
      ∃ component ∈ supervisorComponents system, ∃ state ∈ component.automaton.states,
        component.automaton.Forbids state event ∧ component.bit state = bit := by
  rw [Disablement.mem_statesDisabling_ofSupervisors]
  constructor
  · rintro ⟨index, supervisor, present, forbidding⟩
    exact ⟨_, mem_supervisorComponents.mpr ⟨index, supervisor, present, rfl⟩, forbidding⟩
  · rintro ⟨component, member, forbidding⟩
    obtain ⟨index, supervisor, present, rfl⟩ := mem_supervisorComponents.mp member
    exact ⟨index, supervisor, present, forbidding⟩

/-- They are supervisor bits, so none of them is a flag. -/
theorem statesDisabling_ne_flag (system : ControlSystem) (event bit : String)
    (listed : bit ∈ (Disablement.ofSupervisors system.supervisors).statesDisabling event)
    (other : Event) : bit ≠ (Signal.disablement other).variableName := by
  obtain ⟨component, member, state, -, -, rfl⟩ := (mem_statesDisabling system event bit).mp listed
  obtain ⟨index, supervisor, -, rfl⟩ := mem_supervisorComponents.mp member
  exact Signal.variableName_ne rfl rfl (by decide)

/-- A passage over the disablement section sets the flag of every controllable event to whether the
bit of a state that forbids it is true, and changes nothing else. -/
theorem pass_disablement (system : ControlSystem) (scan : Scan)
    (ready : scan.ReadyAt (sectionStart system .disablement + 1)) :
    let after := (generate system).pass .disablement .plants scan
    after.ReadyAt (sectionStart system .plants + 1) ∧
      (∀ event ∈ systemEvents system, event.isControllable = true →
        after.values (Signal.disablement event).variableName =
          ((Disablement.ofSupervisors system.supervisors).statesDisabling event.name).any
            scan.values) ∧
      ∀ name, (∀ event ∈ systemEvents system, event.isControllable = true →
          name ≠ (Signal.disablement event).variableName) →
        after.values name = scan.values name := by
  let states := (Disablement.ofSupervisors system.supervisors).statesDisabling
  obtain ⟨values, behind⟩ := Rung.layout_run (flaggedEvents system)
    (fun event => Rung.disablementFlag event (states event.name))
    (fun event => Rung.raiseFlag event (states event.name))
    (fun event _ => Rung.disablementFlag_computes event (states event.name)) _ scan ready
  have body : sectionBody system .disablement = Rung.layout (sectionStart system .disablement + 1)
      ((flaggedEvents system).map fun event =>
        Rung.disablementFlag event (states event.name)) := rfl
  rw [← body] at values behind
  have passed : ((generate system).pass .disablement .plants scan).values =
      raiseFlags states (flaggedEvents system) scan.values := by
    rw [pass_eq_land rfl (.inl behind.going)]
    exact values
  obtain ⟨flagsKnown, flagsComplete⟩ := flaggedEvents_exact system
  refine ⟨pass_ready rfl ready (.inl behind.going), ?_, ?_⟩
  · intro event member controllable
    obtain ⟨flagged, listed, sameName⟩ := flagsComplete event member controllable
    rw [passed, Signal.disablement_eq_iff.mpr sameName.symm, ← sameName]
    exact raiseFlags_flag (statesDisabling_ne_flag system) listed scan.values
  · intro name unflagged
    rw [passed]
    exact raiseFlags_of_ne states (fun event listed =>
      unflagged event (flagsKnown event listed).1 (flagsKnown event listed).2) scan.values

/-- With every supervisor in one state, one of the variables that forbid an event is true exactly
when some supervisor forbids the event in its state. -/
theorem any_statesDisabling_iff {system : ControlSystem} {values : Valuation}
    {current : Component → State}
    (distinct : ∀ component ∈ supervisorComponents system, component.bits.Nodup)
    (inState : ∀ component ∈ supervisorComponents system,
      component.InState values (current component)) (event : String) :
    ((Disablement.ofSupervisors system.supervisors).statesDisabling event).any values = true ↔
      ∃ component ∈ supervisorComponents system,
        component.automaton.Forbids (current component) event := by
  simp only [List.any_eq_true, mem_statesDisabling]
  constructor
  · rintro ⟨bit, ⟨component, member, state, listed, forbidden, rfl⟩, occupied⟩
    have same : state = current component :=
      ((inState component member).bit_iff (distinct component member) listed).mp occupied
    exact ⟨component, member, same ▸ forbidden⟩
  · rintro ⟨component, member, forbidden⟩
    have occupied := inState component member
    exact ⟨_, ⟨component, member, current component, occupied.1, forbidden, rfl⟩,
      (occupied.bit_iff (distinct component member) occupied.1).mpr rfl⟩

/-- The disablement flags are exact and combinational. Let every supervisor have different bits for
different states and be in one state, all other variables and the old flags being arbitrary. Behind
the section the flag of a controllable event is true exactly when some supervisor forbids the event
in its state, and nothing but these flags has changed. -/
theorem flag_iff_supervisor_forbids (system : ControlSystem)
    (distinct : ∀ component ∈ supervisorComponents system, component.bits.Nodup)
    (scan : Scan) (ready : scan.ReadyAt (sectionStart system .disablement + 1))
    (current : Component → State)
    (inState : ∀ component ∈ supervisorComponents system,
      component.InState scan.values (current component)) :
    let after := (generate system).pass .disablement .plants scan
    after.ReadyAt (sectionStart system .plants + 1) ∧
      (∀ event ∈ systemEvents system, event.isControllable = true →
        (after.values (Signal.disablement event).variableName = true ↔
          ∃ component ∈ supervisorComponents system,
            component.automaton.Forbids (current component) event.name)) ∧
      ∀ name, (∀ event ∈ systemEvents system, event.isControllable = true →
          name ≠ (Signal.disablement event).variableName) →
        after.values name = scan.values name := by
  obtain ⟨arrived, flags, others⟩ := pass_disablement system scan ready
  refine ⟨arrived, ?_, others⟩
  intro event member controllable
  rw [flags event member controllable]
  exact any_statesDisabling_iff distinct inState event.name

/-- A full buffer forbids the start of the first machine and allows that of the second one, against
both old flags. -/
theorem flags_of_full_buffer :
    let after := (generate SmallFactory.system).pass .disablement .plants
      (Scan.opened SmallFactory.loaded)
    after.values "d_a1" = true ∧ after.values "d_a2" = false := by
  obtain ⟨-, flags, -⟩ := flag_iff_supervisor_forbids SmallFactory.system (by decide)
    (Scan.opened SmallFactory.loaded) (Scan.opened_readyAt _ (rail_lt_sectionStart _ _))
    (fun _ => ⟨"full", .unmarked⟩) (by decide)
  have first := flags ⟨"a1", .controllable⟩ (by decide) rfl
  have second := flags ⟨"a2", .controllable⟩ (by decide) rfl
  exact ⟨first.mpr (by decide), Bool.eq_false_iff.mpr fun raised =>
    absurd (second.mp raised) (by decide)⟩

end SupervisoryLadder.Ladder
