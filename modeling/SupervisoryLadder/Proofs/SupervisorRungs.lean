import SupervisoryLadder.Proofs.FirstAppearance
import SupervisoryLadder.Proofs.SectionBlocks

/-!
# The rungs of the supervisors

Transitions of a supervisor that join the same two states share a rung, however they are interleaved
with others: the supervisor leaves the first state for the second one on any of their events. The
section lists supervisor by supervisor one rung for each pair of different states that a transition
joins, by first appearance, and in each rung one contact for each event of the pair, again by first
appearance. So every transition that changes the state has its contact in exactly one rung, and
repeated transitions add nothing.
-/

namespace SupervisoryLadder

namespace Automaton

/-- The ends of the transitions that change the state, in order and with repetitions. -/
def changes (automaton : Automaton) : List (State × State) :=
  (automaton.transitions.filter fun transition => transition.origin ≠ transition.destination).map
    fun transition => (transition.origin, transition.destination)

/-- The triggers of the transitions from one state to another, in order and with repetitions. -/
def triggersBetween (automaton : Automaton) (pair : State × State) : List Event :=
  (automaton.transitions.filter fun transition =>
    transition.origin = pair.1 ∧ transition.destination = pair.2).map Transition.trigger

/-- The moves are the transitions between different states. -/
theorem moves_eq_filter (automaton : Automaton) :
    automaton.moves = automaton.transitions.filter fun transition =>
      transition.origin ≠ transition.destination := by
  apply List.filter_congr
  intro transition _
  rw [Bool.eq_iff_iff]
  simp [Transition.isSelfLoop]

end Automaton

namespace Ladder

/-- The rung of a supervisor for two of its states, as it stands in a program. -/
structure MoveRung (index : Nat) (supervisor : Automaton) (pair : State × State) where
  comment : Element
  title : Element
  origin : Element
  guards : List Element
  set : Element
  reset : Element
  events : List Event
  isComment : comment.part = .comment
  isTitle : title.part = .networkTitle
  /-- A contact on the first state, fed by the left rail. -/
  onOrigin : origin.part =
    .contact (Signal.supervisorState index pair.1).variableName false [leftRailId]
  /-- The events that lead from the first state to the second. -/
  listed : FirstAppearances (supervisor.triggersBetween pair) events
  /-- A contact on each event, fed by the contact on the first state. -/
  onEvents : guards.map Element.part = events.map fun event =>
    .contact (Signal.occurrence event).variableName false [origin.id]
  /-- Exactly the contacts on the events feed both coils. -/
  sets : set.part =
    .coil (Signal.supervisorState index pair.2).variableName .set (guards.map Element.id)
  resets : reset.part =
    .coil (Signal.supervisorState index pair.1).variableName .reset (guards.map Element.id)

/-- The elements of the rung in order; the two coils are neighbours. -/
def MoveRung.elements {index : Nat} {supervisor : Automaton} {pair : State × State}
    (rung : MoveRung index supervisor pair) : List Element :=
  [rung.comment, rung.title, rung.origin] ++ rung.guards ++ [rung.set, rung.reset]

/-- The pairs of states with a rung are those that transitions join, by first appearance. -/
theorem movePairs_firstAppearances (automaton : Automaton) :
    FirstAppearances automaton.changes (movePairs automaton) := by
  rw [movePairs, Automaton.moves_eq_filter]
  exact FirstAppearances.eraseDups _

/-- The events of a rung are those that lead from one state to the other, by first appearance. A
transition between two different states is always a move. -/
theorem moveEvents_firstAppearances {automaton : Automaton} {pair : State × State}
    (different : pair.1 ≠ pair.2) :
    FirstAppearances (automaton.triggersBetween pair) (moveEvents automaton pair.1 pair.2) := by
  have between : (automaton.moves.filter fun transition =>
        transition.origin == pair.1 && transition.destination == pair.2) =
      automaton.transitions.filter fun transition =>
        transition.origin = pair.1 ∧ transition.destination = pair.2 := by
    rw [Automaton.moves_eq_filter, List.filter_filter]
    apply List.filter_congr
    intro transition _
    rw [Bool.eq_iff_iff]
    simp only [Bool.and_eq_true, beq_iff_eq, decide_eq_true_eq, ne_eq, and_iff_left_iff_imp]
    rintro ⟨origin, destination⟩
    rw [origin, destination]
    exact different
  rw [moveEvents, between]
  exact FirstAppearances.eraseDups _

/-- The generated rung of a pair is such a rung, from whatever id on it is placed. -/
theorem supervisorMove_moveRung (index : Nat) {supervisor : Automaton} {pair : State × State}
    (different : pair.1 ≠ pair.2) (base : Nat) :
    ∃ rung : MoveRung index supervisor pair, rung.elements =
      Rung.place base (Rung.supervisorMove index pair.1 pair.2
        (moveEvents supervisor pair.1 pair.2)) := by
  let events := moveEvents supervisor pair.1 pair.2
  let contacts : Rung := events.map fun event => Rung.contact (.occurrence event) [.member 2]
  have guards : (Rung.members 3 events.length).map (Feed.locate base) =
      (Rung.placeFrom base 3 contacts).map Element.id := by
    rw [← Rung.locate_members, List.length_map]
  refine ⟨{
    comment := ⟨base, .comment⟩
    title := ⟨base + 1, .networkTitle⟩
    origin := ⟨base + 2,
      .contact (Signal.supervisorState index pair.1).variableName false [leftRailId]⟩
    guards := Rung.placeFrom base 3 contacts
    set := ⟨base + (events.length + 3), .coil (Signal.supervisorState index pair.2).variableName
      .set ((Rung.placeFrom base 3 contacts).map Element.id)⟩
    reset := ⟨base + (events.length + 3 + 1), .coil
      (Signal.supervisorState index pair.1).variableName .reset
        ((Rung.placeFrom base 3 contacts).map Element.id)⟩
    events := events
    isComment := rfl
    isTitle := rfl
    onOrigin := rfl
    listed := moveEvents_firstAppearances different
    onEvents := by rw [Rung.parts_placeFrom, List.map_map]; rfl
    sets := rfl
    resets := rfl }, ?_⟩
  simp only [MoveRung.elements, ← guards]
  rw [Rung.place_eq_placeFrom, Rung.supervisorMove, Rung.placeFrom_append, Rung.placeFrom_append]
  simp [Rung.header, Rung.contact, Rung.coil, Part.map, Feed.locate, contacts, events]

/-- The supervisors' section groups the transitions. Between its label and the next one stand,
supervisor by supervisor, one rung for each pair of different states that transitions of the
supervisor join, by first appearance, and each rung has one contact for each event of these
transitions, by first appearance. -/
theorem supervisors_section_grouped (system : ControlSystem) :
    Blocks
      (fun entry block => ∃ pairs, FirstAppearances entry.1.changes pairs ∧
        Blocks (fun pair elements => ∃ rung : MoveRung entry.2 entry.1 pair,
          rung.elements = elements) pairs block)
      system.supervisors.zipIdx ((generate system).between .supervisors .disablement) := by
  rw [between_generate system rfl]
  apply Rung.blocks_layout
  intro entry _ base
  refine ⟨movePairs entry.1, movePairs_firstAppearances entry.1, ?_⟩
  apply Rung.blocks_place
  intro pair member start
  apply supervisorMove_moveRung
  have joined := (movePairs_firstAppearances entry.1).complete pair |>.mp member
  obtain ⟨transition, changing, rfl⟩ := List.mem_map.mp joined
  simpa using (List.mem_filter.mp changing).2

/-- A shuttle between two places. Two of its transitions lead from left to right, with another one
between them, and one changes nothing. -/
def shuttle : Automaton :=
  let left : State := ⟨"left", .marked⟩
  let right : State := ⟨"right", .unmarked⟩
  Automaton.build "S" left
    [⟨left, ⟨"go", .controllable⟩, right⟩, ⟨right, ⟨"back", .controllable⟩, left⟩,
      ⟨left, ⟨"ping", .uncontrollable⟩, left⟩, ⟨left, ⟨"push", .uncontrollable⟩, right⟩]

example : (generate ⟨[shuttle], [], []⟩).between .supervisors .disablement =
    [⟨2, .comment⟩, ⟨3, .networkTitle⟩, ⟨4, .contact "s00_left" false [0]⟩,
      ⟨5, .contact "go" false [4]⟩, ⟨6, .contact "push" false [4]⟩,
      ⟨7, .coil "s00_right" .set [5, 6]⟩, ⟨8, .coil "s00_left" .reset [5, 6]⟩,
      ⟨9, .comment⟩, ⟨10, .networkTitle⟩, ⟨11, .contact "s00_right" false [0]⟩,
      ⟨12, .contact "back" false [11]⟩, ⟨13, .coil "s00_left" .set [12]⟩,
      ⟨14, .coil "s00_right" .reset [12]⟩] := by
  decide

end Ladder

end SupervisoryLadder
