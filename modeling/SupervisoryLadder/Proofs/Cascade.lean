import SupervisoryLadder.Proofs.Configuration

/-!
# How far a supervisor goes on one event

The rungs of a supervisor are tried one after another in one scan, and nothing ends the section when
one of them has moved the supervisor. So a bit that one rung sets can trigger a rung further down,
and a single occurrence of an event may carry a supervisor along several transitions. A supervisor
takes one step for one occurrence, whatever state it is in, exactly when no move leads into the
origin of a move on the same event whose rung is tried later.
-/

namespace SupervisoryLadder

namespace Automaton

/-- There is at most one destination for every origin and event. Events of one name share a flag and
count as one event. -/
def Deterministic (automaton : Automaton) : Prop :=
  ∀ first ∈ automaton.transitions, ∀ second ∈ automaton.transitions,
    first.origin = second.origin → first.trigger.name = second.trigger.name →
      first.destination = second.destination

instance (automaton : Automaton) : Decidable automaton.Deterministic :=
  inferInstanceAs (Decidable (∀ first ∈ automaton.transitions, _))

/-- The state after one occurrence of the event of this name: the destination of the transition on
it, or the state itself when it has none. -/
def successor (automaton : Automaton) (state : State) (event : String) : State :=
  match automaton.transitions.find? fun transition =>
      transition.origin = state ∧ transition.trigger.name = event with
  | some transition => transition.destination
  | none => state

/-- A state without a transition on the event is its own successor. -/
theorem successor_of_none {automaton : Automaton} {state : State} {event : String}
    (missing : ∀ transition ∈ automaton.transitions, transition.origin = state →
      transition.trigger.name ≠ event) : automaton.successor state event = state := by
  unfold successor
  split
  · next transition found =>
    have matching := List.find?_some found
    simp only [decide_eq_true_eq] at matching
    exact absurd matching.2 (missing transition (List.mem_of_find?_eq_some found) matching.1)
  · rfl

/-- In a deterministic automaton every transition leads to the successor. -/
theorem Deterministic.successor_eq {automaton : Automaton} (deterministic : automaton.Deterministic)
    {transition : Transition} (member : transition ∈ automaton.transitions) :
    automaton.successor transition.origin transition.trigger.name = transition.destination := by
  unfold successor
  split
  · next other found =>
    have matching := List.find?_some found
    simp only [decide_eq_true_eq] at matching
    exact deterministic other (List.mem_of_find?_eq_some found) transition member matching.1
      matching.2
  · next missing =>
    have unmatched := List.find?_eq_none.mp missing transition member
    simp at unmatched

end Automaton

namespace Ladder

/-- A move on the event leads into the origin of another one, and the rung of the second is tried
behind that of the first. -/
def Cascades (automaton : Automaton) (event : String) : Prop :=
  ∃ first ∈ automaton.moves, ∃ second ∈ automaton.moves,
    first.trigger.name = event ∧ second.trigger.name = event ∧ first.destination = second.origin ∧
      [(first.origin, first.destination), (second.origin, second.destination)].Sublist
        (movePairs automaton)

instance (automaton : Automaton) (event : String) : Decidable (Cascades automaton event) :=
  inferInstanceAs (Decidable (∃ first ∈ automaton.moves, _))

section OneEvent

variable {automaton : Automaton} {flags : Valuation} {event : String}

/-- When one event occurs, the pairs whose rung can fire are those that a move on it joins. -/
theorem pairOccurs_iff
    (only : ∀ known ∈ automaton.events, flags known.name = true ↔ known.name = event)
    {pair : State × State} :
    pairOccurs automaton flags pair = true ↔
      ∃ move ∈ automaton.moves, (move.origin, move.destination) = pair ∧
        move.trigger.name = event := by
  rw [pairOccurs, List.any_eq_true]
  constructor
  · rintro ⟨known, listed, raised⟩
    have occurs := (only known (events_of_mem_moveEvents listed)).mp raised
    obtain ⟨move, moves, origin, destination, rfl⟩ := mem_moveEvents.mp listed
    exact ⟨move, moves, Prod.ext origin destination, occurs⟩
  · rintro ⟨move, moves, rfl, occurs⟩
    refine ⟨move.trigger, mem_moveEvents.mpr ⟨move, moves, rfl, rfl, rfl⟩, ?_⟩
    exact (only _ (automaton.trigger_mem (Automaton.mem_moves.mp moves).1)).mpr occurs

/-- Which way the supervisor goes depends on the event that occurs and on no other variable. -/
theorem follow_congr {other : Valuation}
    (only : ∀ known ∈ automaton.events, flags known.name = true ↔ known.name = event)
    (otherOnly : ∀ known ∈ automaton.events, other known.name = true ↔ known.name = event)
    (state : State) : follow automaton flags state = follow automaton other state := by
  have sameOccurs : pairOccurs automaton flags = pairOccurs automaton other := by
    funext pair
    rw [Bool.eq_iff_iff, pairOccurs_iff only, pairOccurs_iff otherOnly]
  have samePair : followPair automaton flags = followPair automaton other := by
    funext state pair
    rw [followPair, followPair, sameOccurs]
  rw [follow, follow, samePair]

/-- Rungs that cannot fire from a state leave the supervisor in it. -/
theorem foldl_followPair_of_blocked {pairs : List (State × State)} {state : State}
    (blocked : ∀ pair ∈ pairs, pair.1 = state → ¬ pairOccurs automaton flags pair = true) :
    pairs.foldl (followPair automaton flags) state = state := by
  induction pairs with
  | nil => rfl
  | cons pair rest inductionHypothesis =>
    have unmoved : followPair automaton flags state pair = state :=
      if_neg fun moving => blocked pair List.mem_cons_self moving.1.symm moving.2
    rw [List.foldl_cons, unmoved]
    exact inductionHypothesis fun other later => blocked other (List.mem_cons_of_mem _ later)

/-- In a deterministic automaton only one rung can fire from a state, and the rungs before it leave
the supervisor there. -/
theorem blocked_before (deterministic : automaton.Deterministic)
    (only : ∀ known ∈ automaton.events, flags known.name = true ↔ known.name = event)
    {front back : List (State × State)} {pair : State × State}
    (split : movePairs automaton = front ++ pair :: back)
    (occurs : pairOccurs automaton flags pair = true) :
    ∀ other ∈ front, other.1 = pair.1 → ¬ pairOccurs automaton flags other = true := by
  intro other before sameOrigin otherOccurs
  obtain ⟨move, moves, rfl, moveName⟩ := (pairOccurs_iff only).mp occurs
  obtain ⟨otherMove, otherMoves, rfl, otherName⟩ := (pairOccurs_iff only).mp otherOccurs
  have sameDestination : otherMove.destination = move.destination :=
    deterministic otherMove (Automaton.mem_moves.mp otherMoves).1 move
      (Automaton.mem_moves.mp moves).1 sameOrigin (otherName.trans moveName.symm)
  have same : (otherMove.origin, otherMove.destination) = (move.origin, move.destination) :=
    Prod.ext sameOrigin sameDestination
  have distinct : (movePairs automaton).Nodup := Distinct.nodup_eraseDups _
  rw [split, List.nodup_append] at distinct
  exact distinct.2.2 _ before _ List.mem_cons_self same

/-- The rung that can fire from a state fires, and what comes behind it starts from its second
state. -/
theorem follow_of_split (deterministic : automaton.Deterministic)
    (only : ∀ known ∈ automaton.events, flags known.name = true ↔ known.name = event)
    {front back : List (State × State)} {state next : State}
    (split : movePairs automaton = front ++ (state, next) :: back)
    (occurs : pairOccurs automaton flags (state, next) = true) :
    follow automaton flags state = back.foldl (followPair automaton flags) next := by
  have moved : followPair automaton flags state (state, next) = next := if_pos ⟨rfl, occurs⟩
  rw [follow, split, List.foldl_append, List.foldl_cons,
    foldl_followPair_of_blocked (blocked_before deterministic only split occurs), moved]

/-- Two moves that cascade lead to the same end from both of their origins. The second rung is
reached in its origin either way. -/
theorem follow_eq_of_cascade (deterministic : automaton.Deterministic)
    (only : ∀ known ∈ automaton.events, flags known.name = true ↔ known.name = event)
    {state middle last : State}
    (ordered : [(state, middle), (middle, last)].Sublist (movePairs automaton))
    (first : pairOccurs automaton flags (state, middle) = true)
    (second : pairOccurs automaton flags (middle, last) = true) :
    follow automaton flags state = follow automaton flags middle := by
  obtain ⟨upTo, behind, split, before, after⟩ := List.cons_sublist_iff.mp ordered
  obtain ⟨front, between, rfl⟩ := List.append_of_mem before
  obtain ⟨more, back, rfl⟩ := List.append_of_mem (List.singleton_sublist.mp after)
  have firstSplit : movePairs automaton =
      front ++ (state, middle) :: (between ++ more ++ (middle, last) :: back) := by
    rw [split]
    simp
  have secondSplit : movePairs automaton =
      (front ++ (state, middle) :: between ++ more) ++ (middle, last) :: back := by
    rw [split]
    simp
  have blocked := blocked_before deterministic only secondSplit second
  have waited : (between ++ more).foldl (followPair automaton flags) middle = middle := by
    refine foldl_followPair_of_blocked fun pair listed => blocked pair ?_
    rcases List.mem_append.mp listed with early | late
    · exact List.mem_append_left _ (List.mem_append_right _ (List.mem_cons_of_mem _ early))
    · exact List.mem_append_right _ late
  have moved : followPair automaton flags middle (middle, last) = last := if_pos ⟨rfl, second⟩
  rw [follow_of_split deterministic only firstSplit first, List.foldl_append, waited,
    List.foldl_cons, moved, follow_of_split deterministic only secondSplit second]

/-- Without a cascade the supervisor ends in the successor: behind the rung that fires, no rung can
fire from its second state. -/
theorem follow_eq_successor (deterministic : automaton.Deterministic)
    (only : ∀ known ∈ automaton.events, flags known.name = true ↔ known.name = event)
    (calm : ¬ Cascades automaton event) (state : State) :
    follow automaton flags state = automaton.successor state event := by
  by_cases moving : ∃ move ∈ automaton.moves, move.origin = state ∧ move.trigger.name = event
  · obtain ⟨move, moves, rfl, rfl⟩ := moving
    have occurs : pairOccurs automaton flags (move.origin, move.destination) = true :=
      (pairOccurs_iff only).mpr ⟨move, moves, rfl, rfl⟩
    obtain ⟨front, back, split⟩ := List.append_of_mem (mem_movePairs.mpr ⟨move, moves, rfl⟩)
    rw [follow_of_split deterministic only split occurs,
      deterministic.successor_eq (Automaton.mem_moves.mp moves).1]
    refine foldl_followPair_of_blocked fun pair later origin pairOccurs => calm ?_
    obtain ⟨second, secondMoves, rfl, secondName⟩ := (pairOccurs_iff only).mp pairOccurs
    refine ⟨move, moves, second, secondMoves, rfl, secondName, origin.symm, ?_⟩
    rw [split]
    exact ((List.singleton_sublist.mpr later).cons_cons _).trans (List.sublist_append_right _ _)
  · have still : follow automaton flags state = state := by
      refine foldl_followPair_of_blocked fun pair _ origin pairOccurs => moving ?_
      obtain ⟨move, moves, rfl, name⟩ := (pairOccurs_iff only).mp pairOccurs
      exact ⟨move, moves, origin, name⟩
    rw [still]
    -- A transition that is no move is a self-loop, so it leads to the state as well.
    by_cases looping : ∃ loop ∈ automaton.transitions, loop.origin = state ∧
        loop.trigger.name = event
    · obtain ⟨loop, member, rfl, rfl⟩ := looping
      rw [deterministic.successor_eq member]
      by_contra different
      exact moving ⟨loop, Automaton.mem_moves.mpr ⟨member, different⟩, rfl, rfl⟩
    · refine (Automaton.successor_of_none fun transition member origin name => ?_).symm
      exact looping ⟨transition, member, origin, name⟩

/-- A deterministic supervisor takes exactly one step from each of its states if and only if the
event does not cascade. From the two origins of a cascade it comes to the same end, and this cannot
be the successor of both. -/
theorem follow_eq_successor_iff (deterministic : automaton.Deterministic)
    (only : ∀ known ∈ automaton.events, flags known.name = true ↔ known.name = event) :
    (∀ state ∈ automaton.states,
      follow automaton flags state = automaton.successor state event) ↔
        ¬ Cascades automaton event := by
  constructor
  · rintro oneStep ⟨first, firstMoves, second, secondMoves, rfl, secondName, meets, ordered⟩
    obtain ⟨firstMember, -⟩ := Automaton.mem_moves.mp firstMoves
    obtain ⟨secondMember, different⟩ := Automaton.mem_moves.mp secondMoves
    have firstOccurs : pairOccurs automaton flags (first.origin, first.destination) = true :=
      (pairOccurs_iff only).mpr ⟨first, firstMoves, rfl, rfl⟩
    have secondOccurs : pairOccurs automaton flags (second.origin, second.destination) = true :=
      (pairOccurs_iff only).mpr ⟨second, secondMoves, rfl, secondName⟩
    rw [← meets] at ordered secondOccurs
    have together := follow_eq_of_cascade deterministic only ordered firstOccurs secondOccurs
    have firstEnd : follow automaton flags first.origin = first.destination :=
      (oneStep _ (automaton.ends_mem firstMember).1).trans (deterministic.successor_eq firstMember)
    have secondEnd : follow automaton flags first.destination = second.destination := by
      rw [meets, oneStep _ (automaton.ends_mem secondMember).1, ← secondName]
      exact deterministic.successor_eq secondMember
    exact different (meets.symm.trans (firstEnd.symm.trans (together.trans secondEnd)))
  · exact fun calm state _ => follow_eq_successor deterministic only calm state

end OneEvent

/-- The valuation in which, of all bits and event flags, exactly the bits of a configuration and the
flag of one event are true. -/
def Configuration.valuation (config : Configuration) (system : ControlSystem) (event : String) :
    Valuation := fun name =>
  name = event ∨ name ∈ (components system).map fun component => component.bit (config component)

section Distinct

variable {system : ControlSystem} (distinct : DistinctSignals system)
include distinct

/-- Every configuration of listed states is represented by some valuation, whichever event
occurs. -/
theorem valuation_represents {config : Configuration}
    (listed : ∀ component ∈ components system, config component ∈ component.automaton.states)
    {event : Event} (known : event ∈ systemEvents system) :
    Represents system (config.valuation system event.name) config := by
  intro component member
  refine ⟨listed component member, fun bit own => ?_⟩
  have notEvent : bit ≠ event.name :=
    distinct.bit_ne (mem_stateBits member own) (.inl (occurrence_mem known))
  rw [Configuration.valuation, decide_eq_true_eq, or_iff_right notEvent, List.mem_map]
  constructor
  · rintro ⟨other, otherMember, rfl⟩
    have shared := Component.bit_mem (listed other otherMember)
    rw [distinct.eq_of_shared member otherMember own shared]
  · rintro rfl
    exact ⟨component, member, rfl⟩

/-- In that valuation no other event occurs. -/
theorem valuation_occurrence {config : Configuration}
    (listed : ∀ component ∈ components system, config component ∈ component.automaton.states)
    (event : String) {other : Event} (known : other ∈ systemEvents system) :
    config.valuation system event (Signal.occurrence other).variableName = true ↔
      other.name = event := by
  rw [Configuration.valuation, decide_eq_true_eq]
  refine or_iff_left fun shared => ?_
  obtain ⟨component, member, same⟩ := List.mem_map.mp shared
  have bit := mem_stateBits member (Component.bit_mem (listed component member))
  exact distinct.bit_ne bit (.inl (occurrence_mem known)) same

end Distinct

/-- What the supervisors' section meets when one event has occurred: every supervisor is in its
state, and of all events only this one has its flag set. Everything else is arbitrary. -/
structure Meets (system : ControlSystem) (event : Event) (scan : Scan)
    (current : Component → State) : Prop where
  ready : scan.ReadyAt (sectionStart system .supervisors + 1)
  inState : ∀ component ∈ supervisorComponents system,
    component.InState scan.values (current component)
  only : ∀ other ∈ systemEvents system,
    scan.values (Signal.occurrence other).variableName = true ↔ other.name = event.name

/-- Every supervisor takes its one step on the event, from whatever states the section meets. -/
def StepsOnce (system : ControlSystem) (event : Event) : Prop :=
  ∀ (scan : Scan) (current : Component → State), Meets system event scan current →
    ∀ component ∈ supervisorComponents system,
      component.InState ((generate system).pass .supervisors .disablement scan).values
        (component.automaton.successor (current component) event.name)

/-- A supervisor that meets one event goes where `follow` leads. -/
theorem Meets.follows {system : ControlSystem} (distinct : DistinctSignals system) {event : Event}
    {scan : Scan} {current : Component → State} (meets : Meets system event scan current)
    {component : Component} (supervises : component ∈ supervisorComponents system) :
    component.InState ((generate system).pass .supervisors .disablement scan).values
      (follow component.automaton scan.values (current component)) := by
  rw [(pass_supervisors system scan meets.ready).1]
  exact followAll_inState distinct supervises (meets.inState component supervises)

/-- The flags of a supervisor's own events show which event has occurred. -/
theorem Meets.only_own {system : ControlSystem} {event : Event} {scan : Scan}
    {current : Component → State} (meets : Meets system event scan current) {component : Component}
    (supervises : component ∈ supervisorComponents system) :
    ∀ known ∈ component.automaton.events,
      scan.values known.name = true ↔ known.name = event.name :=
  fun known listed => meets.only known (mem_systemEvents (List.mem_append_left _ supervises) listed)

/-- From every state of a supervisor the section can meet the event. The other automata are in their
initial states. -/
theorem exists_meets {system : ControlSystem} (distinct : DistinctSignals system) {event : Event}
    (known : event ∈ systemEvents system) (component : Component) {state : State}
    (listed : state ∈ component.automaton.states) :
    ∃ (scan : Scan) (current : Component → State),
      Meets system event scan current ∧ current component = state := by
  let config : Configuration :=
    Function.update (fun other => other.automaton.initial) component state
  have allListed : ∀ other ∈ components system, config other ∈ other.automaton.states := by
    intro other _
    by_cases chosen : other = component
    · subst chosen
      simpa only [config, Function.update_self] using listed
    · simpa only [config, Function.update_of_ne chosen] using other.automaton.initial_mem
  refine ⟨Scan.opened (config.valuation system event.name), config, ?_,
    Function.update_self _ _ _⟩
  exact {
    ready := Scan.opened_readyAt _ (rail_lt_sectionStart _ _)
    inState := fun other supervises => valuation_represents distinct allListed known other
      (List.mem_append_left _ supervises)
    only := fun other otherKnown =>
      valuation_occurrence distinct allListed event.name otherKnown }

/-- When one event occurs, supervisors may go further than one step, and it is known which. Let
different signals of the system have different variables and let the supervisors be deterministic.
Then every supervisor goes, from every state and on every valuation, to exactly its successor if and
only if the event does not cascade in any of them. -/
theorem steps_once_iff_no_cascade (system : ControlSystem) (distinct : DistinctSignals system)
    (deterministic : ∀ supervisor ∈ system.supervisors, supervisor.Deterministic)
    (event : Event) (known : event ∈ systemEvents system) :
    StepsOnce system event ↔
      ∀ supervisor ∈ system.supervisors, ¬ Cascades supervisor event.name := by
  constructor
  · intro once supervisor member
    obtain ⟨index, present⟩ := List.mem_iff_getElem?.mp member
    have supervises : Component.supervisor index supervisor ∈ supervisorComponents system :=
      mem_supervisorComponents.mpr ⟨index, supervisor, present, rfl⟩
    have nodup := distinct.bits_nodup (List.mem_append_left _ supervises)
    let flags : Valuation := fun name => name = event.name
    have only : ∀ known ∈ supervisor.events, flags known.name = true ↔ known.name = event.name :=
      fun known _ => decide_eq_true_iff
    refine (follow_eq_successor_iff (deterministic supervisor member) only).mp ?_
    intro state listed
    obtain ⟨scan, current, meets, rfl⟩ :=
      exists_meets distinct known (.supervisor index supervisor) listed
    have went := meets.follows distinct supervises
    have stepped := once scan current meets _ supervises
    rw [follow_congr only (meets.only_own supervises)]
    exact ((went.bit_iff nodup stepped.1).mp ((stepped.bit_iff nodup stepped.1).mpr rfl)).symm
  · intro calm scan current meets component supervises
    have member : component.automaton ∈ system.supervisors := by
      obtain ⟨index, supervisor, present, rfl⟩ := mem_supervisorComponents.mp supervises
      exact List.mem_of_getElem? present
    rw [← follow_eq_successor (deterministic _ member) (meets.only_own supervises)
      (calm _ member)]
    exact meets.follows distinct supervises

/-- In the small factory no event cascades, so the buffer takes one step when a machine has
finished. -/
theorem finished_piece_fills_buffer :
    let scan := Scan.opened fun name => name ∈ ["s00_held", "b1"]
    Meets SmallFactory.system ⟨"b1", .uncontrollable⟩ scan (fun _ => ⟨"held", .unmarked⟩) ∧
      StepsOnce SmallFactory.system ⟨"b1", .uncontrollable⟩ ∧
      (Component.supervisor 0 SmallFactory.buffer).InState
        ((generate SmallFactory.system).pass .supervisors .disablement scan).values
        ⟨"full", .unmarked⟩ := by
  intro scan
  have meets : Meets SmallFactory.system ⟨"b1", .uncontrollable⟩ scan
      (fun _ => ⟨"held", .unmarked⟩) :=
    ⟨Scan.opened_readyAt _ (rail_lt_sectionStart _ _), by decide, by decide⟩
  have once := (steps_once_iff_no_cascade SmallFactory.system (by decide +kernel) (by decide)
    ⟨"b1", .uncontrollable⟩ (by decide)).mpr (by decide)
  exact ⟨meets, once, once scan _ meets (.supervisor 0 SmallFactory.buffer) (by decide)⟩

namespace TwoPlaces

/-- A buffer with two places that is only filled. -/
def buffer : Automaton :=
  Automaton.build "B" ⟨"empty", .marked⟩
    [⟨⟨"empty", .marked⟩, ⟨"b1", .uncontrollable⟩, ⟨"one", .unmarked⟩⟩,
      ⟨⟨"one", .unmarked⟩, ⟨"b1", .uncontrollable⟩, ⟨"two", .unmarked⟩⟩]

/-- The buffer as the only supervisor. -/
def system : ControlSystem := ⟨[buffer], [], []⟩

/-- A piece comes to the empty buffer. -/
def filling : Valuation := fun name => name ∈ ["s00_empty", "b1"]

end TwoPlaces

/-- One piece fills both places of the buffer: its signals are distinct and it is deterministic, but
from the empty state the section leaves it in the last one. -/
theorem one_piece_fills_two_places :
    let after := (generate TwoPlaces.system).pass .supervisors .disablement
      (Scan.opened TwoPlaces.filling)
    DistinctSignals TwoPlaces.system ∧
      (∀ supervisor ∈ TwoPlaces.system.supervisors, supervisor.Deterministic) ∧
      Meets TwoPlaces.system ⟨"b1", .uncontrollable⟩ (Scan.opened TwoPlaces.filling)
        (fun _ => ⟨"empty", .marked⟩) ∧
      TwoPlaces.buffer.successor ⟨"empty", .marked⟩ "b1" = ⟨"one", .unmarked⟩ ∧
      ¬ (Component.supervisor 0 TwoPlaces.buffer).InState after.values ⟨"one", .unmarked⟩ ∧
      (Component.supervisor 0 TwoPlaces.buffer).InState after.values ⟨"two", .unmarked⟩ := by
  have meets : Meets TwoPlaces.system ⟨"b1", .uncontrollable⟩ (Scan.opened TwoPlaces.filling)
      (fun _ => ⟨"empty", .marked⟩) :=
    ⟨Scan.opened_readyAt _ (rail_lt_sectionStart _ _), by decide, by decide⟩
  exact ⟨by decide, by decide, meets, by decide, by decide +kernel, by decide +kernel⟩

end Ladder

end SupervisoryLadder
