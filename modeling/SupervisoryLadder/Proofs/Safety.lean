import SupervisoryLadder.Proofs.WholeScan

/-!
# No forbidden event is commanded

A plant move with a controllable event fires only while the flag of the event is false, the flags
are computed in the same scan, and nothing is written between the flags and the guard of the rung
that fires. So whichever supervisor bits are true when the flags are computed, each of these states
has a transition on the event. This needs nothing of the system: states may share bits, several bits
of a supervisor may be true, and any names may clash.
-/

namespace SupervisoryLadder.Ladder

/-- No forbidden event is commanded. Suppose that a scan, from any valuation, commands an event by a
plant move. If a supervisor has the event in its alphabet, and the bit of one of its states is true
when the supervisors have followed the last events, then the supervisor has a transition from that
state on that event. -/
theorem commanded_event_enabled (system : ControlSystem) (values : Valuation) (move : PlantMove)
    (fired : move ∈ firedMoves system ((Scan.start values).run (generate system).elements))
    (commanded : move.transition.trigger.isControllable = true)
    (component : Component) (supervises : component ∈ supervisorComponents system)
    (known : move.transition.trigger ∈ component.automaton.events)
    (state : State) (member : state ∈ component.automaton.states)
    (occupied :
      ((generate system).arrive .disablement values).values (component.bit state) = true) :
    ∃ transition ∈ component.automaton.transitions,
      transition.origin = state ∧ transition.trigger = move.transition.trigger := by
  rw [firedMoves_eq, Option.mem_toList] at fired
  have enabled := List.find?_some fired
  have lowered : ((generate system).arrive .plants values).values
      (Signal.disablement move.transition.trigger).variableName = false := by
    simp only [PlantMove.enabled, Rung.moveEnabled, commanded, if_true, Bool.and_eq_true,
      Bool.not_eq_true'] at enabled
    exact enabled.2
  have listed : move.transition.trigger ∈ systemEvents system :=
    mem_systemEvents (List.mem_append_left _ supervises) known
  have computed := (arrive_plants system values).1 move.transition.trigger listed commanded
  rw [lowered, ← arrive_disablement] at computed
  have allowed : ¬ component.automaton.Forbids state move.transition.trigger.name := by
    intro forbids
    have raised := List.any_eq_false.mp computed.symm (component.bit state)
      ((mem_statesDisabling system _ _).mpr
        ⟨component, supervises, state, member, forbids, rfl⟩)
    exact raised occupied
  exact (Automaton.not_forbids_iff known commanded).mp allowed

/-- The second machine is started from a full buffer, which has a transition on the command. -/
theorem full_buffer_enables_unload :
    SmallFactory.unload ∈ firedMoves SmallFactory.system
        ((Scan.start SmallFactory.loaded).run (generate SmallFactory.system).elements) ∧
      ∃ transition ∈ SmallFactory.buffer.transitions,
        transition.origin = ⟨"full", .unmarked⟩ ∧ transition.trigger = ⟨"a2", .controllable⟩ := by
  have fired : SmallFactory.unload ∈ firedMoves SmallFactory.system
      ((Scan.start SmallFactory.loaded).run (generate SmallFactory.system).elements) := by
    rw [firedMoves_eq, ← movesInOrder_eq SmallFactory.plants_sensedFirst]
    decide +kernel
  exact ⟨fired, commanded_event_enabled SmallFactory.system SmallFactory.loaded SmallFactory.unload
    fired rfl (.supervisor 0 SmallFactory.buffer) (by decide) (by decide) ⟨"full", .unmarked⟩
    (by decide) (by decide)⟩

end SupervisoryLadder.Ladder
