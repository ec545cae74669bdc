import SupervisoryLadder.Automaton.Basic
import SupervisoryLadder.Proofs.FirstAppearance

/-!
# Automata put together

An automaton is built from an initial state and transitions and may then be extended, in any order
and any number of times, by states and events that its transitions do not mention. Extensions leave
the transitions alone. The states and the alphabet list what the transitions mention and then what
the extensions name, by first appearance, so it does not matter how the extensions are cut up or in
which order states and events take turns.
-/

namespace SupervisoryLadder

/-- What is listed in an automaton besides what its transitions mention. -/
inductive Extension where
  | states (items : List State)
  | events (items : List Event)
  deriving DecidableEq

namespace Extension

/-- The states that an extension names. -/
def stateItems : Extension → List State
  | .states items => items
  | .events _ => []

/-- The events that an extension names. -/
def eventItems : Extension → List Event
  | .states _ => []
  | .events items => items

end Extension

namespace Automaton

/-- The automaton with one extension. -/
def extend (automaton : Automaton) : Extension → Automaton
  | .states items => automaton.withStates items
  | .events items => automaton.withEvents items

/-- The automaton of an initial state and transitions, extended in order. -/
def assemble (name : String) (initial : State) (transitions : List Transition)
    (extensions : List Extension) : Automaton :=
  extensions.foldl extend (build name initial transitions)

/-- Extensions change neither name nor initial state nor transitions. -/
theorem foldl_extend (automaton : Automaton) (extensions : List Extension) :
    (extensions.foldl extend automaton).name = automaton.name ∧
      (extensions.foldl extend automaton).initial = automaton.initial ∧
      (extensions.foldl extend automaton).transitions = automaton.transitions := by
  induction extensions generalizing automaton with
  | nil => exact ⟨rfl, rfl, rfl⟩
  | cons extension rest inductionHypothesis =>
    rw [List.foldl_cons]
    cases extension with
    | states items => exact inductionHypothesis (automaton.withStates items)
    | events items => exact inductionHypothesis (automaton.withEvents items)

/-- An automaton that is put together has the name, the initial state and the transitions that it
was built from. -/
theorem assemble_core (name : String) (initial : State) (transitions : List Transition)
    (extensions : List Extension) :
    (assemble name initial transitions extensions).name = name ∧
      (assemble name initial transitions extensions).initial = initial ∧
      (assemble name initial transitions extensions).transitions = transitions :=
  foldl_extend (build name initial transitions) extensions

/-- An extension lists its states behind those that are there. One that names only events leaves the
states alone, since they repeat nothing. -/
theorem states_extend (automaton : Automaton) (extension : Extension) :
    (automaton.extend extension).states =
      (automaton.states ++ extension.stateItems).eraseDups := by
  cases extension with
  | states items => rfl
  | events items =>
    rw [Extension.stateItems, List.append_nil, Distinct.eraseDups_eq_self automaton.states_nodup]
    rfl

/-- An extension lists its events behind those that are there. -/
theorem events_extend (automaton : Automaton) (extension : Extension) :
    (automaton.extend extension).events =
      (automaton.events ++ extension.eventItems).eraseDups := by
  cases extension with
  | states items =>
    rw [Extension.eventItems, List.append_nil, Distinct.eraseDups_eq_self automaton.events_nodup]
    rfl
  | events items => rfl

/-- What every extension lists behind the rest is listed, after all of them, as if they had been
one. States and events are both listed this way. -/
theorem listed_foldl_extend {α : Type} [BEq α] [LawfulBEq α] {listed : Automaton → List α}
    {items : Extension → List α}
    (step : ∀ automaton extension,
      listed (automaton.extend extension) = (listed automaton ++ items extension).eraseDups)
    (extensions : List Extension) {automaton : Automaton} (distinct : (listed automaton).Nodup) :
    listed (extensions.foldl extend automaton) =
      (listed automaton ++ extensions.flatMap items).eraseDups := by
  induction extensions generalizing automaton with
  | nil =>
    rw [List.foldl_nil, List.flatMap_nil, List.append_nil, Distinct.eraseDups_eq_self distinct]
  | cons extension rest inductionHypothesis =>
    have stillDistinct : (listed (automaton.extend extension)).Nodup := by
      rw [step]
      exact Distinct.nodup_eraseDups _
    rw [List.foldl_cons, inductionHypothesis stillDistinct, step,
      Distinct.eraseDups_eraseDups_append, List.flatMap_cons, List.append_assoc]

section Assembled

variable {name : String} {initial : State} {transitions : List Transition}
  {extensions : List Extension}

/-- The states of an automaton that is put together: the initial state, the ends of the transitions
and what the extensions name, by first appearance. -/
theorem states_assemble :
    (assemble name initial transitions extensions).states =
      (initial :: transitions.flatMap Transition.ends ++
        extensions.flatMap Extension.stateItems).eraseDups := by
  rw [assemble, listed_foldl_extend states_extend extensions (states_nodup _)]
  exact Distinct.eraseDups_eraseDups_append _ _

/-- The alphabet of an automaton that is put together: the triggers of the transitions and what the
extensions name, by first appearance. -/
theorem events_assemble :
    (assemble name initial transitions extensions).events =
      (transitions.map Transition.trigger ++
        extensions.flatMap Extension.eventItems).eraseDups := by
  rw [assemble, listed_foldl_extend events_extend extensions (events_nodup _)]
  exact Distinct.eraseDups_eraseDups_append _ _

theorem mem_events_assemble {event : Event} :
    event ∈ (assemble name initial transitions extensions).events ↔
      event ∈ transitions.map Transition.trigger ∨
        ∃ items, .events items ∈ extensions ∧ event ∈ items := by
  rw [events_assemble, List.mem_eraseDups, List.mem_append, List.mem_flatMap]
  apply or_congr_right
  constructor
  · rintro ⟨extension, listed, named⟩
    cases extension with
    | states items => cases named
    | events items => exact ⟨items, listed, named⟩
  · rintro ⟨items, listed, named⟩
    exact ⟨.events items, listed, named⟩

/-- Extensions that name the same states and the same events, each in the same order, put together
the same automaton. -/
theorem assemble_eq {others : List Extension}
    (sameStates : others.flatMap Extension.stateItems = extensions.flatMap Extension.stateItems)
    (sameEvents : others.flatMap Extension.eventItems = extensions.flatMap Extension.eventItems) :
    assemble name initial transitions others = assemble name initial transitions extensions := by
  obtain ⟨otherName, otherInitial, otherTransitions⟩ :=
    assemble_core name initial transitions others
  obtain ⟨ownName, ownInitial, ownTransitions⟩ := assemble_core name initial transitions extensions
  apply Automaton.ext
  · rw [otherName, ownName]
  · rw [otherInitial, ownInitial]
  · rw [otherTransitions, ownTransitions]
  · rw [states_assemble, states_assemble, sameStates]
  · rw [events_assemble, events_assemble, sameEvents]

end Assembled

/-- However an automaton is put together, it lists by first appearance. Its states are the initial
state, the ends of the transitions in order and the states that the extensions name; its alphabet is
the triggers in order and the events that the extensions name; later repetitions are left out. Name,
initial state and transitions are as they were given. So nothing is listed twice, and nothing that
the transitions mention is missing. How the extensions were cut up, and how states and events took
turns, cannot be told from the result. -/
theorem assembled_by_first_appearance (name : String) (initial : State)
    (transitions : List Transition) (extensions : List Extension) :
    let automaton := assemble name initial transitions extensions
    let states := initial :: transitions.flatMap Transition.ends ++
      extensions.flatMap Extension.stateItems
    let events := transitions.map Transition.trigger ++ extensions.flatMap Extension.eventItems
    (automaton.states = states.eraseDups ∧ FirstAppearances states automaton.states) ∧
    (automaton.events = events.eraseDups ∧ FirstAppearances events automaton.events) ∧
    (automaton.name = name ∧ automaton.initial = initial ∧ automaton.transitions = transitions) ∧
    (automaton.states.Nodup ∧ automaton.events.Nodup ∧ initial ∈ automaton.states ∧
      ∀ transition ∈ transitions, transition.origin ∈ automaton.states ∧
        transition.destination ∈ automaton.states ∧ transition.trigger ∈ automaton.events) ∧
    ∀ others : List Extension,
      others.flatMap Extension.stateItems = extensions.flatMap Extension.stateItems →
      others.flatMap Extension.eventItems = extensions.flatMap Extension.eventItems →
        assemble name initial transitions others = automaton := by
  intro automaton states events
  have firstStates : FirstAppearances states automaton.states := by
    rw [states_assemble]
    exact FirstAppearances.eraseDups states
  have firstEvents : FirstAppearances events automaton.events := by
    rw [events_assemble]
    exact FirstAppearances.eraseDups events
  refine ⟨⟨states_assemble, firstStates⟩, ⟨events_assemble, firstEvents⟩,
    assemble_core name initial transitions extensions,
    ⟨firstStates.nodup, firstEvents.nodup, ?_, ?_⟩, fun _ => assemble_eq⟩
  · rw [firstStates.complete]
    exact List.mem_cons_self
  · intro transition present
    have ends {state : State} (mentioned : state ∈ transition.ends) : state ∈ automaton.states := by
      rw [firstStates.complete]
      apply List.mem_append_left
      exact List.mem_cons_of_mem _ (List.mem_flatMap.mpr ⟨transition, present, mentioned⟩)
    refine ⟨ends (by simp [Transition.ends]), ends (by simp [Transition.ends]), ?_⟩
    rw [firstEvents.complete]
    exact List.mem_append_left _ (List.mem_map_of_mem present)

namespace Turnstile

def locked : State := ⟨"locked", .marked⟩
def unlocked : State := ⟨"unlocked", .unmarked⟩
def broken : State := ⟨"broken", .unmarked⟩
def coin : Event := ⟨"coin", .uncontrollable⟩
def turn : Event := ⟨"turn", .uncontrollable⟩
def reset : Event := ⟨"reset", .controllable⟩

/-- A turnstile that a coin unlocks for one turn. -/
def transitions : List Transition := [⟨locked, coin, unlocked⟩, ⟨unlocked, turn, locked⟩]

/-- Declared besides: that it may be broken, once more that it is locked, and a locked state that is
not marked and therefore another one. -/
def declared : List Extension :=
  [.states [broken, locked], .events [turn, reset], .states [broken, ⟨"locked", .unmarked⟩]]

/-- The same declarations, cut up differently and with the events first. -/
def rearranged : List Extension :=
  [.events [turn], .events [reset], .states [broken],
    .states [locked, broken, ⟨"locked", .unmarked⟩], .states []]

end Turnstile

/-- The turnstile is the same whichever way its declarations come, and lists none of its states
twice. -/
theorem rearranged_turnstile_same :
    Turnstile.rearranged.flatMap Extension.stateItems =
        Turnstile.declared.flatMap Extension.stateItems ∧
      Turnstile.rearranged.flatMap Extension.eventItems =
        Turnstile.declared.flatMap Extension.eventItems ∧
      assemble "T" Turnstile.locked Turnstile.transitions Turnstile.rearranged =
        assemble "T" Turnstile.locked Turnstile.transitions Turnstile.declared ∧
      (assemble "T" Turnstile.locked Turnstile.transitions Turnstile.declared).states =
        [Turnstile.locked, Turnstile.unlocked, Turnstile.broken, ⟨"locked", .unmarked⟩] := by
  have sameStates : Turnstile.rearranged.flatMap Extension.stateItems =
      Turnstile.declared.flatMap Extension.stateItems := rfl
  have sameEvents : Turnstile.rearranged.flatMap Extension.eventItems =
      Turnstile.declared.flatMap Extension.eventItems := rfl
  obtain ⟨⟨states, -⟩, -, -, -, same⟩ := assembled_by_first_appearance "T" Turnstile.locked
    Turnstile.transitions Turnstile.declared
  exact ⟨sameStates, sameEvents, same Turnstile.rearranged sameStates sameEvents,
    states.trans (by decide)⟩

end Automaton

end SupervisoryLadder
