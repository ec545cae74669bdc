import SupervisoryLadder.Ladder.Element
import SupervisoryLadder.Signal

/-!
# Rungs

A rung is written with references that are local to it: an element is fed by the left rail or by the
member of the rung at some offset. Only when the rungs of a program are laid out one after another
does every member get its id. So a rung never depends on what stands before it.
-/

namespace SupervisoryLadder.Ladder

/-- What feeds a member of a rung. -/
inductive Feed where
  | rail
  | member (offset : Nat)
  deriving DecidableEq

/-- The id of a feeding element in a rung whose first member has the id `base`. -/
def Feed.locate (base : Nat) : Feed → Nat
  | rail => leftRailId
  | member offset => base + offset

/-- The members of a rung in order. -/
abbrev Rung := List (Part Feed)

namespace Rung

/-- A rung as elements with the consecutive ids from `base` on. -/
def place (base : Nat) (rung : Rung) : List Element :=
  (rung.zipIdx base).map fun member => ⟨member.2, member.1.map (Feed.locate base)⟩

/-- Rungs one after another, with consecutive ids from `base` on. -/
def layout (base : Nat) : List Rung → List Element
  | [] => []
  | rung :: rest => place base rung ++ layout (base + rung.length) rest

/-- The members that head every rung. -/
def header : Rung := [.comment, .networkTitle]

/-- A contact on a signal. -/
def contact (signal : Signal) (inputs : List Feed) : Part Feed :=
  .contact signal.variableName false inputs

/-- A negated contact on a signal. -/
def negatedContact (signal : Signal) (inputs : List Feed) : Part Feed :=
  .contact signal.variableName true inputs

/-- A coil on a signal. -/
def coil (signal : Signal) (storage : Storage) (inputs : List Feed) : Part Feed :=
  .coil signal.variableName storage inputs

/-- The `count` members from the offset `first` on, as an alternative. -/
def members (first count : Nat) : List Feed := (List.range' first count).map Feed.member

/-- The rung of a supervisor that moves between two states on any of the events. The contact on the
origin is at offset two, the contacts on the events follow it. -/
def supervisorMove (index : Nat) (origin destination : State) (events : List Event) : Rung :=
  let guards := members 3 events.length
  header ++ [contact (.supervisorState index origin) [.rail]] ++
    events.map (fun event => contact (.occurrence event) [.member 2]) ++
    [coil (.supervisorState index destination) .set guards,
      coil (.supervisorState index origin) .reset guards]

/-- The rung that recomputes the flag of a forbidden event from the state variables that forbid it.
Without such variables the coil has no power and the flag stays false. -/
def disablementFlag (event : Event) (states : List String) : Rung :=
  header ++ states.map (fun state => Part.contact state false [.rail]) ++
    [coil (.disablement event) .direct (members 2 states.length)]

/-- The rung of a plant transition. A controllable event fires while no supervisor forbids it and is
commanded by its petition; an uncontrollable one fires when it is sensed. The jump ends the section,
so one transition fires in a scan. -/
def plantMove (plant : String) (transition : Transition) : Rung :=
  let event := transition.trigger
  let guard := [Feed.member 3]
  header ++ [contact (.plantState plant transition.origin) [.rail]] ++
    (if event.isControllable then
      [negatedContact (.disablement event) [.member 2], coil (.petition event) .set guard]
    else
      [contact (.occurrence event) [.member 2]]) ++
    [coil (.occurrence event) .set guard,
      coil (.plantState plant transition.destination) .set guard,
      coil (.plantState plant transition.origin) .reset guard,
      .jump .procedures guard]

/-- The rung that enters the initial states on the start request. -/
def start (initialStates : List Signal) : Rung :=
  header ++ [contact .start [.rail]] ++
    initialStates.map fun signal => coil signal .set [.member 2]

end Rung

end SupervisoryLadder.Ladder
