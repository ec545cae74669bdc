import Mathlib.Logic.Relation
import SupervisoryLadder.Proofs.Component
import SupervisoryLadder.Proofs.Passage

/-!
# How supervisors follow events

The rungs of a supervisor try its pairs of states in order of first appearance, and each of them
moves the supervisor on when it is in the first state and an event of the pair occurs. A supervisor
that is in one state when the section begins is in one state when it ends: the state that `follow`
computes without any rung. Supervisors do not disturb each other as long as their bits are different
and no trigger has the name of a bit.
-/

namespace SupervisoryLadder.Ladder

/-- Whether an event occurs on which the automaton moves between the two states. -/
def pairOccurs (automaton : Automaton) (flags : Valuation) (pair : State × State) : Bool :=
  (moveEvents automaton pair.1 pair.2).any fun event =>
    flags (Signal.occurrence event).variableName

/-- The state after one pair: the second one if the automaton was in the first and an event of the
pair occurs. -/
def followPair (automaton : Automaton) (flags : Valuation) (state : State) (pair : State × State) :
    State :=
  if state = pair.1 ∧ pairOccurs automaton flags pair = true then pair.2 else state

/-- The state after all pairs, by first appearance. -/
def follow (automaton : Automaton) (flags : Valuation) (state : State) : State :=
  (movePairs automaton).foldl (followPair automaton flags) state

/-- The effect of the rungs of some pairs of a supervisor. -/
def followPairs (index : Nat) (supervisor : Automaton) (pairs : List (State × State))
    (values : Valuation) : Valuation :=
  pairs.foldl (fun values pair =>
    Rung.followMove index pair.1 pair.2 (moveEvents supervisor pair.1 pair.2) values) values

/-- The effect of the rungs of one supervisor. -/
def followRungs (index : Nat) (supervisor : Automaton) (values : Valuation) : Valuation :=
  followPairs index supervisor (movePairs supervisor) values

/-- The effect of the rungs of supervisors with their places in the list. -/
def followEntries (entries : List (Automaton × Nat)) (values : Valuation) : Valuation :=
  entries.foldl (fun values entry => followRungs entry.2 entry.1 values) values

/-- The effect of the rungs of all supervisors. -/
def followAll (supervisors : List Automaton) (values : Valuation) : Valuation :=
  followEntries supervisors.zipIdx values

/-- A passage over the supervisors' section has the effect of all their rungs. -/
theorem pass_supervisors (system : ControlSystem) (scan : Scan)
    (ready : scan.ReadyAt (sectionStart system .supervisors + 1)) :
    let after := (generate system).pass .supervisors .disablement scan
    after.values = followAll system.supervisors scan.values ∧
      after.ReadyAt (sectionStart system .disablement + 1) := by
  let items := system.supervisors.zipIdx.flatMap fun entry =>
    (movePairs entry.1).map fun pair => (entry, pair)
  obtain ⟨values, behind⟩ := Rung.layout_run items
    (fun item => Rung.supervisorMove item.1.2 item.2.1 item.2.2
      (moveEvents item.1.1 item.2.1 item.2.2))
    (fun item => Rung.followMove item.1.2 item.2.1 item.2.2
      (moveEvents item.1.1 item.2.1 item.2.2))
    (fun item _ => Rung.supervisorMove_computes _ _ _ _) _ scan ready
  have body : sectionBody system .supervisors = Rung.layout (sectionStart system .supervisors + 1)
      (items.map fun item => Rung.supervisorMove item.1.2 item.2.1 item.2.2
        (moveEvents item.1.1 item.2.1 item.2.2)) := by
    simp only [items, List.map_flatMap, List.map_map]
    rfl
  rw [← body] at values behind
  refine ⟨?_, pass_ready rfl ready (.inl behind.going)⟩
  rw [pass_eq_land rfl (.inl behind.going)]
  refine values.trans ?_
  simp only [items, List.foldl_flatMap, List.foldl_map]
  rfl

/-- The pairs of an automaton are the ends of its moves. -/
theorem mem_movePairs {automaton : Automaton} {pair : State × State} :
    pair ∈ movePairs automaton ↔
      ∃ transition ∈ automaton.moves, (transition.origin, transition.destination) = pair := by
  rw [movePairs, List.mem_eraseDups, List.mem_map]

/-- The events of a pair are the triggers of the moves between its states. -/
theorem mem_moveEvents {automaton : Automaton} {origin destination : State} {event : Event} :
    event ∈ moveEvents automaton origin destination ↔
      ∃ transition ∈ automaton.moves, transition.origin = origin ∧
        transition.destination = destination ∧ transition.trigger = event := by
  simp [moveEvents, List.mem_eraseDups, and_assoc]

/-- A pair joins two different states of the automaton. -/
theorem states_of_mem_movePairs {automaton : Automaton} {pair : State × State}
    (member : pair ∈ movePairs automaton) :
    pair.1 ∈ automaton.states ∧ pair.2 ∈ automaton.states ∧ pair.1 ≠ pair.2 := by
  obtain ⟨transition, moves, rfl⟩ := mem_movePairs.mp member
  obtain ⟨present, different⟩ := Automaton.mem_moves.mp moves
  obtain ⟨origin, destination⟩ := automaton.ends_mem present
  exact ⟨origin, destination, different⟩

/-- The events of a pair are in the alphabet. -/
theorem events_of_mem_moveEvents {automaton : Automaton} {origin destination : State}
    {event : Event} (member : event ∈ moveEvents automaton origin destination) :
    event ∈ automaton.events := by
  obtain ⟨transition, moves, -, -, rfl⟩ := mem_moveEvents.mp member
  exact automaton.trigger_mem (Automaton.mem_moves.mp moves).1

/-- A transition to another state, on an event whose flag is true. -/
def MovesOn (automaton : Automaton) (flags : Valuation) (state next : State) : Prop :=
  state ≠ next ∧ ∃ transition ∈ automaton.transitions, transition.origin = state ∧
    transition.destination = next ∧
    flags (Signal.occurrence transition.trigger).variableName = true

/-- A supervisor that follows the flags goes along its own transitions, on events that occur. -/
theorem follow_path (automaton : Automaton) (flags : Valuation) (state : State) :
    Relation.ReflTransGen (MovesOn automaton flags) state (follow automaton flags state) := by
  unfold follow
  generalize movePairs automaton = pairs
  induction pairs generalizing state with
  | nil => exact .refl
  | cons pair rest inductionHypothesis =>
    rw [List.foldl_cons]
    refine Relation.ReflTransGen.trans ?_ (inductionHypothesis _)
    unfold followPair
    split
    · next moving =>
      obtain ⟨rfl, occurs⟩ := moving
      obtain ⟨event, listed, raised⟩ := List.any_eq_true.mp occurs
      obtain ⟨transition, moves, origin, destination, rfl⟩ := mem_moveEvents.mp listed
      obtain ⟨present, different⟩ := Automaton.mem_moves.mp moves
      rw [origin, destination] at different
      exact .single ⟨different, transition, present, origin, destination, raised⟩
    · exact .refl

section OneSupervisor

variable {index : Nat} {supervisor : Automaton} {values : Valuation}

/-- The rung of a pair writes nothing but bits of its supervisor. -/
theorem followMove_of_not_mem {pair : State × State} (member : pair ∈ movePairs supervisor)
    (events : List Event) {name : String}
    (foreign : name ∉ (Component.supervisor index supervisor).bits) :
    Rung.followMove index pair.1 pair.2 events values name = values name := by
  obtain ⟨origin, destination, -⟩ := states_of_mem_movePairs member
  have notBit {state : State} (listed : state ∈ supervisor.states) :
      name ≠ (Signal.supervisorState index state).variableName := by
    rintro rfl
    exact foreign (Component.bit_mem listed)
  unfold Rung.followMove
  split
  · exact Valuation.writeAll_of_not_mem values (by simp [notBit destination, notBit origin])
  · rfl

/-- The rungs of a supervisor write nothing but its bits. -/
theorem followPairs_of_not_mem {pairs : List (State × State)}
    (listed : pairs ⊆ movePairs supervisor) {name : String}
    (foreign : name ∉ (Component.supervisor index supervisor).bits) :
    followPairs index supervisor pairs values name = values name := by
  induction pairs generalizing values with
  | nil => rfl
  | cons pair rest inductionHypothesis =>
    obtain ⟨first, others⟩ := List.cons_subset.mp listed
    exact (inductionHypothesis others).trans (followMove_of_not_mem first _ foreign)

/-- A supervisor that is in no state stays so. -/
theorem followPairs_of_idle {pairs : List (State × State)} (listed : pairs ⊆ movePairs supervisor)
    (idle : ∀ bit ∈ (Component.supervisor index supervisor).bits, values bit = false) :
    followPairs index supervisor pairs values = values := by
  induction pairs with
  | nil => rfl
  | cons pair rest inductionHypothesis =>
    obtain ⟨first, others⟩ := List.cons_subset.mp listed
    have empty : values (Signal.supervisorState index pair.1).variableName = false :=
      idle _ (Component.bit_mem (states_of_mem_movePairs first).1)
    have unmoved : Rung.followMove index pair.1 pair.2 (moveEvents supervisor pair.1 pair.2)
        values = values := by
      simp [Rung.followMove, empty]
    rw [followPairs, List.foldl_cons, unmoved]
    exact inductionHypothesis others

/-- The rung of a pair moves a supervisor as `followPair` says, if the flags that the rung reads are
the given ones. -/
theorem followMove_inState {flags : Valuation} {state : State} {pair : State × State}
    (inState : (Component.supervisor index supervisor).InState values state)
    (distinct : (Component.supervisor index supervisor).bits.Nodup)
    (read : ∀ transition ∈ supervisor.transitions,
      values transition.trigger.name = flags transition.trigger.name)
    (member : pair ∈ movePairs supervisor) :
    (Component.supervisor index supervisor).InState
      (Rung.followMove index pair.1 pair.2 (moveEvents supervisor pair.1 pair.2) values)
      (followPair supervisor flags state pair) := by
  obtain ⟨origin, destination, different⟩ := states_of_mem_movePairs member
  have occupied : values (Signal.supervisorState index pair.1).variableName = true ↔
      pair.1 = state := inState.bit_iff distinct origin
  have occurs : (moveEvents supervisor pair.1 pair.2).any (fun event =>
      values (Signal.occurrence event).variableName) = pairOccurs supervisor flags pair := by
    rw [pairOccurs, Bool.eq_iff_iff, List.any_eq_true, List.any_eq_true]
    refine exists_congr fun event => and_congr_right fun listed => ?_
    obtain ⟨transition, moves, -, -, rfl⟩ := mem_moveEvents.mp listed
    rw [Signal.variableName, read transition (Automaton.mem_moves.mp moves).1]
  unfold Rung.followMove followPair
  rw [occurs]
  by_cases moving : state = pair.1 ∧ pairOccurs supervisor flags pair = true
  · rw [if_pos moving, if_pos (by simp [occupied.mpr moving.1.symm, moving.2])]
    obtain ⟨rfl, -⟩ := moving
    exact inState.move distinct destination different
  · rw [if_neg moving, if_neg]
    · exact inState
    · rw [Bool.and_eq_true, occupied]
      exact fun guard => moving ⟨guard.1.symm, guard.2⟩

/-- The rungs of a supervisor move it as `follow` says. The flags keep their values on the way,
since no trigger has the name of a bit. -/
theorem followRungs_inState {flags : Valuation} {state : State}
    (inState : (Component.supervisor index supervisor).InState values state)
    (distinct : (Component.supervisor index supervisor).bits.Nodup)
    (unnamed : ∀ transition ∈ supervisor.transitions,
      transition.trigger.name ∉ (Component.supervisor index supervisor).bits)
    (read : ∀ transition ∈ supervisor.transitions,
      values transition.trigger.name = flags transition.trigger.name) :
    (Component.supervisor index supervisor).InState (followRungs index supervisor values)
      (follow supervisor flags state) := by
  have moved (pairs : List (State × State)) (listed : pairs ⊆ movePairs supervisor) :
      (Component.supervisor index supervisor).InState (followPairs index supervisor pairs values)
        (pairs.foldl (followPair supervisor flags) state) := by
    induction pairs generalizing values state with
    | nil => exact inState
    | cons pair rest inductionHypothesis =>
      obtain ⟨first, others⟩ := List.cons_subset.mp listed
      refine inductionHypothesis (followMove_inState inState distinct read first) ?_ others
      intro transition present
      exact (followMove_of_not_mem first _ (unnamed transition present)).trans
        (read transition present)
  exact moved _ (List.Subset.refl _)

end OneSupervisor

section AllSupervisors

variable {entries : List (Automaton × Nat)} {values : Valuation}

/-- Supervisors write nothing but their bits. -/
theorem followEntries_of_not_mem {name : String}
    (foreign : ∀ entry ∈ entries, name ∉ (Component.supervisor entry.2 entry.1).bits) :
    followEntries entries values name = values name := by
  induction entries generalizing values with
  | nil => rfl
  | cons head rest inductionHypothesis =>
    show followEntries rest (followRungs head.2 head.1 values) name = values name
    rw [inductionHypothesis fun entry later => foreign entry (List.mem_cons_of_mem _ later)]
    exact followPairs_of_not_mem (List.Subset.refl _) (foreign head List.mem_cons_self)

/-- Supervisors that are in no state stay so. -/
theorem followEntries_of_idle
    (idle : ∀ entry ∈ entries, ∀ bit ∈ (Component.supervisor entry.2 entry.1).bits,
      values bit = false) : followEntries entries values = values := by
  induction entries with
  | nil => rfl
  | cons head rest inductionHypothesis =>
    have first : followRungs head.2 head.1 values = values :=
      followPairs_of_idle (List.Subset.refl _) (idle head List.mem_cons_self)
    rw [followEntries, List.foldl_cons, first]
    exact inductionHypothesis fun entry later => idle entry (List.mem_cons_of_mem _ later)

/-- Every supervisor moves as `follow` says when the bits of all of them are different and no
trigger has the name of a bit.

Induct over the supervisors: those before the one in question change neither its bits nor the flags,
and those behind it do not change its bits. -/
theorem followEntries_inState {flags : Valuation} {state : State} {entry : Automaton × Nat}
    (member : entry ∈ entries)
    (inState : (Component.supervisor entry.2 entry.1).InState values state)
    (distinct : (Component.supervisor entry.2 entry.1).bits.Nodup)
    (apart : entries.Pairwise fun left right =>
      List.Disjoint (Component.supervisor left.2 left.1).bits
        (Component.supervisor right.2 right.1).bits)
    (unnamed : ∀ transition ∈ entry.1.transitions, ∀ other ∈ entries,
      transition.trigger.name ∉ (Component.supervisor other.2 other.1).bits)
    (read : ∀ transition ∈ entry.1.transitions,
      values transition.trigger.name = flags transition.trigger.name) :
    (Component.supervisor entry.2 entry.1).InState (followEntries entries values)
      (follow entry.1 flags state) := by
  induction entries generalizing values with
  | nil => cases member
  | cons head rest inductionHypothesis =>
    obtain ⟨ahead, behind⟩ := List.pairwise_cons.mp apart
    show (Component.supervisor entry.2 entry.1).InState
      (followEntries rest (followRungs head.2 head.1 values)) _
    rcases List.mem_cons.mp member with rfl | later
    · have moved := followRungs_inState inState distinct
        (fun transition present => unnamed transition present entry List.mem_cons_self) read
      exact moved.of_eq fun bit listed => followEntries_of_not_mem fun other present shared =>
        ahead other present listed shared
    · have kept {name : String} (foreign : name ∉ (Component.supervisor head.2 head.1).bits) :
          followRungs head.2 head.1 values name = values name :=
        followPairs_of_not_mem (List.Subset.refl _) foreign
      refine inductionHypothesis later ?_ behind (fun transition present other listed =>
        unnamed transition present other (List.mem_cons_of_mem _ listed)) ?_
      · exact inState.of_eq fun bit listed => kept fun shared => ahead entry later shared listed
      · intro transition present
        exact (kept (unnamed transition present head List.mem_cons_self)).trans
          (read transition present)

end AllSupervisors

end SupervisoryLadder.Ladder
