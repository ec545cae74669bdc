import SupervisoryLadder.Proofs.Component

/-!
# When two state bits have one name

The variable of a state is a stem, the delimiter and the name of the state with its separators
replaced. The stem of a supervisor is its number, which has no delimiter, so different supervisors
never share a bit. The stem of a plant is its name. That name may be the stem of a supervisor, or
it may go on behind the stem of another automaton and a delimiter, and then a variable can be cut in
two ways. Two bits of a system have one name in exactly these cases, and when two states of one
automaton have names that differ only in separators and delimiters.
-/

namespace SupervisoryLadder

namespace Signal

theorem toList_join (first second : String) :
    (join first second).toList = first.toList ++ delimiter :: second.toList := by
  simp [join]

theorem join_assoc (first second third : String) :
    join (join first second) third = join first (join second third) := by
  simp only [join, String.append_assoc]

/-- What is joined to one text is read back from the whole. -/
theorem join_eq_join_iff {first left right : String} :
    join first left = join first right ↔ left = right := by
  constructor
  · intro same
    have characters := congrArg String.toList same
    rw [toList_join, toList_join] at characters
    exact String.toList_inj.mp (List.cons.inj (List.append_cancel_left characters)).2
  · exact congrArg (join first)

/-- A joined name that is cut at a delimiter: this is the one that joins it, or one further on. -/
theorem cut_join {first second left right : String} {more : List Char}
    (longer : second.toList = first.toList ++ more)
    (rest : delimiter :: left.toList = more ++ delimiter :: right.toList) :
    first = second ∧ left = right ∨
      ∃ middle, second = join first middle ∧ left = join middle right := by
  cases more with
  | nil =>
    left
    rw [List.append_nil] at longer
    exact ⟨String.toList_inj.mp longer.symm, String.toList_inj.mp (List.cons.inj rest).2⟩
  | cons head tail =>
    right
    obtain ⟨rfl, -⟩ := List.cons.inj rest
    have following : left.toList = tail ++ delimiter :: right.toList := (List.cons.inj rest).2
    refine ⟨String.ofList tail, String.toList_inj.mp ?_, String.toList_inj.mp ?_⟩
    · rw [toList_join, String.toList_ofList, longer]
    · rw [toList_join, String.toList_ofList, following]

/-- Joined names are the same when their parts are, or when the first part of one goes on behind the
first part of the other and a delimiter; what it goes on with then begins the other second part. -/
theorem join_eq_iff {first second left right : String} :
    join first left = join second right ↔
      first = second ∧ left = right ∨
        (∃ middle, second = join first middle ∧ left = join middle right) ∨
        ∃ middle, first = join second middle ∧ right = join middle left := by
  constructor
  · intro same
    have characters := congrArg String.toList same
    rw [toList_join, toList_join] at characters
    rcases List.append_eq_append_iff.mp characters with ⟨more, longer, rest⟩ | ⟨more, longer, rest⟩
    · rcases cut_join longer rest with parts | further
      · exact .inl parts
      · exact .inr (.inl further)
    · rcases cut_join longer rest with ⟨sameFirst, sameSecond⟩ | further
      · exact .inl ⟨sameFirst.symm, sameSecond.symm⟩
      · exact .inr (.inr further)
  · rintro (⟨rfl, rfl⟩ | ⟨middle, rfl, rfl⟩ | ⟨middle, rfl, rfl⟩)
    · rfl
    · rw [join_assoc]
    · rw [join_assoc]

/-- A supervisor's number is written in digits. -/
theorem numeral_digits {index : Nat} {character : Char}
    (member : character ∈ (numeral index).toList) : character.isDigit = true := by
  have repr {digit : Char} (listed : digit ∈ (Nat.repr index).toList) : digit.isDigit = true := by
    rw [Nat.toList_repr] at listed
    exact Nat.isDigit_of_mem_toDigits (by decide) (by decide) listed
  unfold numeral at member
  split at member
  · rw [String.toList_append, List.mem_append] at member
    rcases member with leading | digit
    · have zero : character = '0' := by simpa using leading
      rw [zero]
      rfl
    · exact repr digit
  · exact repr member

/-- The digits read as the number, with a leading zero or without. -/
theorem ofDigitChars_numeral (index : Nat) :
    Nat.ofDigitChars 10 (numeral index).toList 0 = index := by
  have repr : Nat.ofDigitChars 10 (Nat.repr index).toList 0 = index := by
    rw [Nat.toList_repr, Nat.ofDigitChars_ten_toDigits]
  unfold numeral
  split
  · rw [String.toList_append]
    exact repr
  · exact repr

/-- The stem of a supervisor's bits has no delimiter, since it is a letter and digits. -/
theorem numeral_ne_join (index : Nat) (first second : String) :
    "s" ++ numeral index ≠ join first second := by
  intro same
  have present : delimiter ∈ ("s" ++ numeral index).toList := by
    rw [same, toList_join]
    exact List.mem_append_right _ List.mem_cons_self
  rw [String.toList_append, List.mem_append] at present
  rcases present with letter | digit
  · exact absurd letter (by decide)
  · exact absurd (numeral_digits digit) (by decide)

theorem numeral_injective {index other : Nat} (same : "s" ++ numeral index = "s" ++ numeral other) :
    index = other := by
  have characters := congrArg String.toList same
  rw [String.toList_append, String.toList_append] at characters
  rw [← ofDigitChars_numeral index, ← ofDigitChars_numeral other,
    List.append_cancel_left characters]

/-- Supervisor states have one variable only at one place of the list. -/
theorem supervisorState_eq_iff {index otherIndex : Nat} {state other : State} :
    (supervisorState index state).variableName = (supervisorState otherIndex other).variableName ↔
      index = otherIndex ∧ sanitize state.name = sanitize other.name := by
  rw [variableName, variableName, join_eq_iff]
  constructor
  · rintro (⟨sameStem, same⟩ | ⟨middle, longer, -⟩ | ⟨middle, longer, -⟩)
    · exact ⟨numeral_injective sameStem, same⟩
    · exact absurd longer (numeral_ne_join _ _ _)
    · exact absurd longer (numeral_ne_join _ _ _)
  · rintro ⟨rfl, same⟩
    exact .inl ⟨rfl, same⟩

end Signal

namespace Ladder

/-- What all bits of an automaton begin with: the number of a supervisor, the name of a plant. -/
def Component.stem : Component → String
  | supervisor index _ => "s" ++ Signal.numeral index
  | plant automaton => automaton.name

/-- A bit is the stem and the name of the state, with the delimiter between them. -/
theorem Component.bit_eq_join (component : Component) (state : State) :
    component.bit state = Signal.join component.stem (Signal.sanitize state.name) := by
  cases component <;> rfl

/-- A bit of a plant has the name of another automaton's bit, because of how the plant is called.
Either its name is the stem of a supervisor, or its name goes on behind the stem of the other
automaton and a delimiter, and the name of the other state begins with the rest of it. -/
inductive Borrows : Component → State → Component → State → Prop where
  | stem {plant supervisor : Automaton} {index : Nat} {state other : State}
      (named : plant.name = (Component.supervisor index supervisor).stem)
      (same : Signal.sanitize state.name = Signal.sanitize other.name) :
      Borrows (.plant plant) state (.supervisor index supervisor) other
  | rest {plant : Automaton} {component : Component} {state other : State} {middle : String}
      (named : plant.name = Signal.join component.stem middle)
      (begins : Signal.sanitize other.name = Signal.join middle (Signal.sanitize state.name)) :
      Borrows (.plant plant) state component other

/-- Only the name of a plant can go on behind another stem. -/
theorem borrows_of_join {component longer : Component} {state other : State} {middle : String}
    (named : longer.stem = Signal.join component.stem middle)
    (begins : Signal.sanitize other.name = Signal.join middle (Signal.sanitize state.name)) :
    Borrows longer state component other := by
  cases longer with
  | supervisor index automaton => exact absurd named (Signal.numeral_ne_join index _ _)
  | plant automaton => exact .rest named begins

/-- What is borrowed is the whole variable. -/
theorem Borrows.bit_eq {plant component : Component} {state other : State}
    (borrows : Borrows plant state component other) :
    plant.bit state = component.bit other := by
  rw [Component.bit_eq_join, Component.bit_eq_join]
  cases borrows with
  | stem named same => rw [same, ← named, Component.stem]
  | rest named begins => rw [Component.stem, named, begins, Signal.join_assoc]

/-- Automata of a system with one stem are the same, unless a plant is called like a supervisor's
stem. -/
theorem eq_or_borrows_of_stem {system : ControlSystem}
    (named : (system.plants.map Automaton.name).Nodup) {left right : Component}
    (leftMember : left ∈ components system) (rightMember : right ∈ components system)
    (sameStem : left.stem = right.stem) {state other : State}
    (same : Signal.sanitize state.name = Signal.sanitize other.name) :
    left = right ∨ Borrows left state right other ∨ Borrows right other left state := by
  rcases List.mem_append.mp leftMember with leftListed | leftListed <;>
    rcases List.mem_append.mp rightMember with rightListed | rightListed
  · obtain ⟨index, supervisor, present, rfl⟩ := mem_supervisorComponents.mp leftListed
    obtain ⟨otherIndex, otherSupervisor, otherPresent, rfl⟩ :=
      mem_supervisorComponents.mp rightListed
    have sameIndex : index = otherIndex := Signal.numeral_injective sameStem
    subst sameIndex
    left
    rw [Option.some.inj (present.symm.trans otherPresent)]
  · obtain ⟨index, supervisor, -, rfl⟩ := mem_supervisorComponents.mp leftListed
    obtain ⟨plant, -, rfl⟩ := List.mem_map.mp rightListed
    exact .inr (.inr (.stem sameStem.symm same.symm))
  · obtain ⟨plant, -, rfl⟩ := List.mem_map.mp leftListed
    obtain ⟨index, supervisor, -, rfl⟩ := mem_supervisorComponents.mp rightListed
    exact .inr (.inl (.stem sameStem same))
  · obtain ⟨plant, present, rfl⟩ := List.mem_map.mp leftListed
    obtain ⟨otherPlant, otherPresent, rfl⟩ := List.mem_map.mp rightListed
    left
    rw [List.inj_on_of_nodup_map named present otherPresent sameStem]

/-- Different supervisors of a list share no bit, whatever their states are called. -/
theorem supervisors_apart (supervisors : List Automaton) :
    supervisors.zipIdx.Pairwise fun left right =>
      List.Disjoint (Component.supervisor left.2 left.1).bits
        (Component.supervisor right.2 right.1).bits := by
  have ascending : supervisors.zipIdx.Pairwise fun left right => left.2 < right.2 := by
    rw [← List.pairwise_map, List.zipIdx_map_snd]
    exact List.pairwise_lt_range'
  apply ascending.imp
  intro left right before bit leftListed rightListed
  obtain ⟨state, -, rfl⟩ := List.mem_map.mp leftListed
  obtain ⟨other, -, same⟩ := List.mem_map.mp rightListed
  have sameIndex := (Signal.supervisorState_eq_iff.mp same).1
  omega

/-- Different pairs of an automaton and a state's name have different variables. -/
def BitsDisjoint (system : ControlSystem) : Prop :=
  ∀ left ∈ components system, ∀ right ∈ components system,
    ∀ state ∈ left.automaton.states, ∀ other ∈ right.automaton.states,
      left.bit state = right.bit other → left = right ∧ state.name = other.name

instance (system : ControlSystem) : Decidable (BitsDisjoint system) :=
  inferInstanceAs (Decidable (∀ left ∈ components system, _))

/-- When two bits of a system have one name. Let the plants have pairwise different names. Then the
variables of two states are the same exactly when the states belong to one automaton and their names
agree once separators are replaced, or when one automaton is a plant whose bit borrows the name of
the other. Only plants borrow, so different supervisors share no bit. -/
theorem state_bits_meet_iff (system : ControlSystem)
    (named : (system.plants.map Automaton.name).Nodup) (left right : Component)
    (leftMember : left ∈ components system) (rightMember : right ∈ components system)
    (state other : State) :
    left.bit state = right.bit other ↔
      left = right ∧ Signal.sanitize state.name = Signal.sanitize other.name ∨
        Borrows left state right other ∨ Borrows right other left state := by
  constructor
  · intro same
    rw [Component.bit_eq_join, Component.bit_eq_join, Signal.join_eq_iff] at same
    rcases same with ⟨sameStem, sameName⟩ | ⟨middle, longer, begins⟩ | ⟨middle, longer, begins⟩
    · rcases eq_or_borrows_of_stem named leftMember rightMember sameStem sameName with
        sameAutomaton | borrows
      · exact .inl ⟨sameAutomaton, sameName⟩
      · exact .inr borrows
    · exact .inr (.inr (borrows_of_join longer begins))
    · exact .inr (.inl (borrows_of_join longer begins))
  · rintro (⟨rfl, sameName⟩ | borrows | borrows)
    · rw [Component.bit_eq_join, Component.bit_eq_join, sameName]
    · exact borrows.bit_eq
    · exact borrows.bit_eq.symm

namespace Lookalikes

/-- An automaton that stays in one state. -/
def still (name state : String) : Automaton := Automaton.build name ⟨state, .unmarked⟩ []

/-- A supervisor with two states whose names differ in the separator only. -/
def separators : ControlSystem :=
  ⟨[(still "S" "a|b").withStates [⟨"a_b", .unmarked⟩]], [], []⟩

/-- Two plants, one called like the other one and a part of its state. -/
def plants : ControlSystem := ⟨[], [still "M" "x_y", still "M_x" "y"], []⟩

/-- A plant that is called like the first supervisor is numbered. -/
def numbers : ControlSystem := ⟨[still "S" "idle"], [still "s00" "idle"], []⟩

end Lookalikes

/-- The state of the second plant has the variable of the first plant's state. -/
theorem nested_plants_share_bit :
    (Lookalikes.plants.plants.map Automaton.name).Nodup ∧
      (Component.plant (Lookalikes.still "M" "x_y")).bit ⟨"x_y", .unmarked⟩ =
        (Component.plant (Lookalikes.still "M_x" "y")).bit ⟨"y", .unmarked⟩ := by
  have named : (Lookalikes.plants.plants.map Automaton.name).Nodup := by decide
  have borrows : Borrows (.plant (Lookalikes.still "M_x" "y")) ⟨"y", .unmarked⟩
      (.plant (Lookalikes.still "M" "x_y")) ⟨"x_y", .unmarked⟩ :=
    .rest (show "M_x" = Signal.join "M" "x" by decide) (by decide)
  refine ⟨named, (state_bits_meet_iff Lookalikes.plants named _ _ ?_ ?_ _ _).mpr
    (.inr (.inr borrows))⟩
  · decide
  · decide

/-- State bits do collide although plants have different names: within a supervisor, between two
plants, and between a supervisor and a plant. -/
theorem state_bits_collide :
    ((Lookalikes.separators.plants.map Automaton.name).Nodup ∧
        ¬ BitsDisjoint Lookalikes.separators) ∧
      ((Lookalikes.plants.plants.map Automaton.name).Nodup ∧ ¬ BitsDisjoint Lookalikes.plants) ∧
      (Lookalikes.numbers.plants.map Automaton.name).Nodup ∧ ¬ BitsDisjoint Lookalikes.numbers := by
  refine ⟨⟨?_, ?_⟩, ⟨?_, ?_⟩, ?_, ?_⟩
  all_goals decide

end Ladder

end SupervisoryLadder
