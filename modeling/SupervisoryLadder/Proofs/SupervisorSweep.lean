import SupervisoryLadder.Proofs.BitNames
import SupervisoryLadder.Proofs.SupervisorRungs
import SupervisoryLadder.Proofs.SupervisorStep

/-!
# What the supervisors' section means

A sweep goes once through the pairs of different states that the transitions of an automaton join,
in order of first appearance, and moves on from the first state of a pair to the second one whenever
some transition between them has an event that occurs. It is defined on the transitions alone, with
no rungs, grouped events or bits. The supervisors' section takes every supervisor where its sweep
leads, all of them at once and without touching any other variable: bits of different supervisors
have different names anyway, so only the bits within one supervisor have to be distinct, and no
trigger may have the name of a bit.
-/

namespace SupervisoryLadder

namespace Automaton

/-- The pairs of different states that transitions join, each at its first appearance. -/
def joinedPairs (automaton : Automaton) : List (State × State) := automaton.changes.eraseDups

/-- Some transition from the first state to the second has an event that occurs. -/
def Joins (automaton : Automaton) (occurs : Event → Bool) (pair : State × State) : Prop :=
  ∃ transition ∈ automaton.transitions, transition.origin = pair.1 ∧
    transition.destination = pair.2 ∧ occurs transition.trigger = true

instance (automaton : Automaton) (occurs : Event → Bool) (pair : State × State) :
    Decidable (automaton.Joins occurs pair) :=
  inferInstanceAs (Decidable (∃ transition ∈ automaton.transitions, _))

/-- The state after one pair of a sweep. -/
def sweepPair (automaton : Automaton) (occurs : Event → Bool) (state : State)
    (pair : State × State) : State :=
  if state = pair.1 ∧ automaton.Joins occurs pair then pair.2 else state

/-- The state after a sweep through all pairs. -/
def sweep (automaton : Automaton) (occurs : Event → Bool) (state : State) : State :=
  automaton.joinedPairs.foldl (automaton.sweepPair occurs) state

end Automaton

namespace Ladder

/-- The events that occur in a valuation. -/
def Valuation.occurs (values : Valuation) (event : Event) : Bool :=
  values (Signal.occurrence event).variableName

/-- The rungs of a supervisor are those of the pairs of a sweep. -/
theorem movePairs_eq_joinedPairs (automaton : Automaton) :
    movePairs automaton = automaton.joinedPairs := by
  rw [movePairs, Automaton.moves_eq_filter]
  rfl

/-- The grouped events of a pair of different states are all that join them. -/
theorem pairOccurs_iff_joins {automaton : Automaton} {values : Valuation} {pair : State × State}
    (different : pair.1 ≠ pair.2) :
    pairOccurs automaton values pair = true ↔ automaton.Joins values.occurs pair := by
  rw [pairOccurs, List.any_eq_true]
  constructor
  · rintro ⟨event, listed, raised⟩
    obtain ⟨transition, moves, origin, destination, rfl⟩ := mem_moveEvents.mp listed
    exact ⟨transition, (Automaton.mem_moves.mp moves).1, origin, destination, raised⟩
  · rintro ⟨transition, member, origin, destination, raised⟩
    have moves : transition ∈ automaton.moves := by
      apply Automaton.mem_moves.mpr
      refine ⟨member, ?_⟩
      rw [origin, destination]
      exact different
    exact ⟨transition.trigger,
      mem_moveEvents.mpr ⟨transition, moves, origin, destination, rfl⟩, raised⟩

/-- Following the rungs of a supervisor is a sweep. A pair with one state on both sides has no
grouped events, but moving along it changes nothing either. -/
theorem follow_eq_sweep (automaton : Automaton) (values : Valuation) (state : State) :
    follow automaton values state = automaton.sweep values.occurs state := by
  have samePair : followPair automaton values = automaton.sweepPair values.occurs := by
    funext current pair
    rw [followPair, Automaton.sweepPair]
    by_cases loop : pair.1 = pair.2
    · have stays (moving : Prop) [Decidable moving] :
          (if current = pair.1 ∧ moving then pair.1 else current) = current := by
        split
        · next moved => exact moved.1.symm
        · rfl
      rw [← loop, stays, stays]
    · simp only [pairOccurs_iff_joins loop]
  rw [follow, Automaton.sweep, movePairs_eq_joinedPairs, samePair]

/-- The supervisors' section is one sweep of every supervisor. Let each supervisor have different
bits for different states, and let no trigger of a supervisor's transition have the name of a
supervisor's bit. If every supervisor is in one state at the label of the section, then behind the
section every supervisor is in one state again, namely where a sweep on the events of the valuation
at the label leads, and no variable but the supervisors' bits has changed. -/
theorem supervisors_section_sweeps (system : ControlSystem)
    (distinct : ∀ component ∈ supervisorComponents system, component.bits.Nodup)
    (unnamed : ∀ supervisor ∈ system.supervisors, ∀ transition ∈ supervisor.transitions,
      ∀ component ∈ supervisorComponents system,
        (Signal.occurrence transition.trigger).variableName ∉ component.bits)
    (scan : Scan) (ready : scan.ReadyAt (sectionStart system .supervisors + 1))
    (current : Component → State)
    (inState : ∀ component ∈ supervisorComponents system,
      component.InState scan.values (current component)) :
    let after := (generate system).pass .supervisors .disablement scan
    after.ReadyAt (sectionStart system .disablement + 1) ∧
      (∀ component ∈ supervisorComponents system,
        component.InState after.values
          (component.automaton.sweep scan.values.occurs (current component))) ∧
      ∀ name, (∀ component ∈ supervisorComponents system, name ∉ component.bits) →
        after.values name = scan.values name := by
  obtain ⟨values, arrived⟩ := pass_supervisors system scan ready
  have bitsOf {entry : Automaton × Nat} (listed : entry ∈ system.supervisors.zipIdx) :
      Component.supervisor entry.2 entry.1 ∈ supervisorComponents system :=
    List.mem_map_of_mem listed
  refine ⟨arrived, ?_, ?_⟩
  · intro component supervises
    rw [values, ← follow_eq_sweep]
    obtain ⟨entry, listed, rfl⟩ := List.mem_map.mp supervises
    have member : entry.1 ∈ system.supervisors := List.fst_mem_of_mem_zipIdx listed
    apply followEntries_inState listed (inState _ supervises) (distinct _ supervises)
    · exact supervisors_apart system.supervisors
    · intro transition present other otherListed
      exact unnamed entry.1 member transition present _ (bitsOf otherListed)
    · intro transition present
      rfl
  · intro name foreign
    rw [values]
    apply followEntries_of_not_mem
    intro entry listed
    exact foreign _ (bitsOf listed)

namespace SmallFactory

/-- Two buffers of one kind as supervisors. -/
def twoBuffers : ControlSystem := ⟨[buffer, buffer], [], []⟩

/-- The first buffer is empty, the second one waits for a piece, and both events occur that fill a
buffer. -/
def bothEvents : Valuation := fun name => name ∈ ["s00_empty", "s01_held", "a1", "b1"]

/-- The states of the two buffers in that valuation. -/
def waiting : Component → State
  | .supervisor 0 _ => ⟨"empty", .marked⟩
  | _ => ⟨"held", .unmarked⟩

end SmallFactory

/-- One sweep takes the first buffer along two pairs and the second one along one, and the flags of
the events stay. -/
theorem two_buffers_sweep :
    let after := (generate SmallFactory.twoBuffers).pass .supervisors .disablement
      (Scan.opened SmallFactory.bothEvents)
    (Component.supervisor 0 SmallFactory.buffer).InState after.values ⟨"full", .unmarked⟩ ∧
      (Component.supervisor 1 SmallFactory.buffer).InState after.values ⟨"full", .unmarked⟩ ∧
      after.values "a1" = true := by
  obtain ⟨-, swept, kept⟩ := supervisors_section_sweeps SmallFactory.twoBuffers (by decide)
    (by decide) (Scan.opened SmallFactory.bothEvents)
    (Scan.opened_readyAt _ (rail_lt_sectionStart _ _)) SmallFactory.waiting (by decide)
  exact ⟨swept (.supervisor 0 SmallFactory.buffer) (by decide),
    swept (.supervisor 1 SmallFactory.buffer) (by decide), kept "a1" (by decide)⟩

end Ladder

end SupervisoryLadder
