import SupervisoryLadder.Proofs.BitNames

/-!
# When two signals have one variable

The variables of supervisor states, petitions, disablement flags and the start request begin with
four different letters, so signals of different kinds among these never meet. Within a kind the
letter is followed by what tells the signals apart: the number of the supervisor up to the first
delimiter and then the sanitized name of the state, or the name of the event as it is. A variable of
a plant's state can look like any of these except the start request, which has no delimiter; the
variables of one plant meet as those of one supervisor do.
-/

namespace SupervisoryLadder.Signal

/-- The kinds of signals that are known by the first letter of their variables. -/
inductive Kind where
  | supervisorState
  | petition
  | disablement
  | start
  deriving DecidableEq

/-- The letter that the variables of a kind begin with. -/
def Kind.letter : Kind → Char
  | supervisorState => 's'
  | petition => 'p'
  | disablement => 'd'
  | start => 'S'

/-- The kind of a signal. Variables of plant states and events begin with free text. -/
def kind? : Signal → Option Kind
  | .supervisorState _ _ => some .supervisorState
  | .petition _ => some .petition
  | .disablement _ => some .disablement
  | .start => some .start
  | .plantState _ _ | .occurrence _ => none

/-- The variable of a signal begins with the letter of its kind. -/
theorem head?_variableName {signal : Signal} {kind : Kind} (isKind : signal.kind? = some kind) :
    signal.variableName.toList.head? = some kind.letter := by
  cases signal <;> cases isKind <;> simp [variableName, toList_join, startName, Kind.letter]

theorem Kind.letter_injective {left right : Kind} (same : left.letter = right.letter) :
    left = right := by
  revert same
  cases left <;> cases right <;> decide

/-- Signals of different kinds have different variables. -/
theorem variableName_ne {left right : Signal} {leftKind rightKind : Kind}
    (isLeft : left.kind? = some leftKind) (isRight : right.kind? = some rightKind)
    (different : leftKind ≠ rightKind) : left.variableName ≠ right.variableName := by
  intro same
  have letters : some leftKind.letter = some rightKind.letter := by
    rw [← head?_variableName isLeft, ← head?_variableName isRight, same]
  exact different (Kind.letter_injective (Option.some.inj letters))

/-- Petitions meet when their events have one name. -/
theorem petition_eq_iff {event other : Event} :
    (petition event).variableName = (petition other).variableName ↔ event.name = other.name :=
  join_eq_join_iff

/-- Flags meet when their events have one name. -/
theorem disablement_eq_iff {event other : Event} :
    (disablement event).variableName = (disablement other).variableName ↔
      event.name = other.name :=
  join_eq_join_iff

/-- Bits of one plant meet when the sanitized names of the states agree. -/
theorem plantState_eq_iff {plant : String} {state other : State} :
    (plantState plant state).variableName = (plantState plant other).variableName ↔
      sanitize state.name = sanitize other.name :=
  join_eq_join_iff

/-- No bit of a plant is the start request, which has no delimiter. -/
theorem start_ne_plantState (plant : String) (state : State) :
    start.variableName ≠ (plantState plant state).variableName := by
  intro same
  have present : delimiter ∈ startName.toList := by
    rw [show startName = join plant (sanitize state.name) from same, toList_join]
    exact List.mem_append_right _ List.mem_cons_self
  exact absurd present (by decide)

/-- Sanitizing replaces every bar by an underscore and keeps all other characters. -/
theorem sanitize_eq_map (name : String) :
    sanitize name = name.map fun character => if character = '|' then '_' else character := by
  apply String.toList_inj.mp
  rw [String.toList_map, sanitize, String.toList_ofList]
  rfl

/-- When two signals have one variable. Supervisor states do so exactly when they belong to one
place of the list and their names agree once every bar is replaced by an underscore, petitions and
disablement flags when their events have one name, and states of one plant when their names agree
after that replacement. Supervisor states, petitions, disablement flags and the start request never
share a variable with another of these four kinds, nor does a plant's state have the variable of the
start request. All names are arbitrary texts and all places arbitrary numbers. -/
theorem variables_meet_exactly :
    let replaced (name : String) :=
      name.map fun character => if character = '|' then '_' else character
    (∀ index otherIndex state other,
      (supervisorState index state).variableName =
          (supervisorState otherIndex other).variableName ↔
        index = otherIndex ∧ replaced state.name = replaced other.name) ∧
    (∀ event other,
      (petition event).variableName = (petition other).variableName ↔ event.name = other.name) ∧
    (∀ event other,
      (disablement event).variableName = (disablement other).variableName ↔
        event.name = other.name) ∧
    (∀ left right : Signal, ∀ leftKind rightKind, left.kind? = some leftKind →
      right.kind? = some rightKind → leftKind ≠ rightKind →
        left.variableName ≠ right.variableName) ∧
    (∀ plant state, start.variableName ≠ (plantState plant state).variableName) ∧
    ∀ plant state other,
      (plantState plant state).variableName = (plantState plant other).variableName ↔
        replaced state.name = replaced other.name := by
  intro replaced
  refine ⟨?_, ?_, ?_, ?_, start_ne_plantState, ?_⟩
  · intro index otherIndex state other
    rw [supervisorState_eq_iff, sanitize_eq_map, sanitize_eq_map]
  · exact fun _ _ => petition_eq_iff
  · exact fun _ _ => disablement_eq_iff
  · exact fun _ _ _ _ => variableName_ne
  · intro plant state other
    rw [plantState_eq_iff, sanitize_eq_map, sanitize_eq_map]

end SupervisoryLadder.Signal
