import Mathlib.Data.List.Forall2
import SupervisoryLadder.Model.Load
import SupervisoryLadder.Proofs.FirstAppearance
import SupervisoryLadder.Proofs.Resolution

/-!
# References of a model document

The automata of a document refer to events by name: first the triggers of the transitions, then the
listed events, supervisors before plants. Resolution fails at the first of these references that
has no entry in the global list, whatever stands behind it. Otherwise it succeeds, and the system is
described by the names in the document and by which entry of a name counts, the last one.

Every name of an automaton then stands for one state or one event. So the order of first appearance
is one of names, and no two states or events of an automaton have the same name.
-/

namespace SupervisoryLadder.Model

/-- The item has the property, and no earlier item of the list has it. -/
def FirstWith {α : Type} (holds : α → Prop) (items : List α) (first : α) : Prop :=
  ∃ front back, items = front ++ first :: back ∧ holds first ∧ ∀ earlier ∈ front, ¬ holds earlier

/-- The item has the property, and no later item of the list has it. -/
def LastWith {α : Type} (holds : α → Prop) (items : List α) (last : α) : Prop :=
  ∃ front back, items = front ++ last :: back ∧ holds last ∧ ∀ later ∈ back, ¬ holds later

/-- Of the items with one name the last one counts. -/
theorem getLast?_named_iff {α : Type} {nameOf : α → String} {items : List α} {name : String}
    {last : α} :
    (items.filter fun item => nameOf item == name).getLast? = some last ↔
      LastWith (nameOf · = name) items last := by
  rw [List.getLast?_filter, List.find?_eq_some_iff_append]
  constructor
  · rintro ⟨named, back, front, split, others⟩
    refine ⟨front.reverse, back.reverse, ?_, by simpa using named, ?_⟩
    · rw [← List.reverse_reverse items, split]
      simp
    · intro later member
      simpa using others later (List.mem_reverse.mp member)
  · rintro ⟨front, back, rfl, named, others⟩
    refine ⟨by simpa using named, back.reverse, front.reverse, by simp, ?_⟩
    intro later member
    simpa using others later (List.mem_reverse.mp member)

/-! ## Failing computations -/

section Faults

variable {α β ε : Type}

/-- The fault of a computation that fails. -/
def fault? : Except ε α → Option ε
  | .error fault => some fault
  | .ok _ => none

theorem fault?_eq_some_iff {computation : Except ε α} {fault : ε} :
    fault? computation = some fault ↔ computation = .error fault := by
  cases computation <;> simp [fault?]

theorem fault?_eq_none_iff {computation : Except ε α} :
    fault? computation = none ↔ ∃ value, computation = .ok value := by
  cases computation <;> simp [fault?]

/-- The fault of two computations in a row is that of the first which fails, if the second one fails
alike for all results of the first. -/
theorem fault?_bind {first : Except ε α} {rest : α → Except ε β} {other : Option ε}
    (alike : ∀ value, fault? (rest value) = other) :
    fault? (first >>= rest) = (fault? first).or other := by
  cases first with
  | error fault => rfl
  | ok value => exact alike value

/-- What only turns a result into another one does not fail. -/
theorem fault?_bind_pure (first : Except ε α) (turn : α → β) :
    fault? (do return turn (← first)) = fault? first := by
  cases first <;> rfl

/-- A list is read up to the first item that fails. -/
theorem fault?_mapM (read : α → Except ε β) (items : List α) :
    fault? (items.mapM read) = items.findSome? fun item => fault? (read item) := by
  induction items with
  | nil => rfl
  | cons head rest inductionHypothesis =>
    have later (value : β) : fault? (do return value :: (← rest.mapM read)) =
        rest.findSome? fun item => fault? (read item) := by
      rw [fault?_bind_pure, inductionHypothesis]
    rw [List.mapM_cons, fault?_bind later, List.findSome?_cons]
    cases fault? (read head) <;> rfl

/-- What a list is read to is read item by item. -/
theorem forall₂_of_mapM_ok {read : α → Except ε β} {items : List α} {results : List β}
    (all : items.mapM read = .ok results) :
    List.Forall₂ (fun item result => read item = .ok result) items results := by
  induction items generalizing results with
  | nil =>
    cases all
    exact .nil
  | cons head rest inductionHypothesis =>
    rw [List.mapM_cons] at all
    obtain ⟨first, firstRead, following⟩ := bind_eq_ok.mp all
    obtain ⟨others, othersRead, finished⟩ := bind_eq_ok.mp following
    cases finished
    exact .cons firstRead (inductionHypothesis othersRead)

/-- If every result tells the item that it was read from, the results tell the list. -/
theorem map_of_mapM_ok {read : α → Except ε β} {told : β → α}
    (tells : ∀ item result, read item = .ok result → told result = item) {items : List α}
    {results : List β} (all : items.mapM read = .ok results) : results.map told = items := by
  have same : List.Forall₂ (fun result item => told result = item) results items :=
    ((forall₂_of_mapM_ok all).imp tells).flip
  rwa [← List.forall₂_eq_eq_eq, List.forall₂_map_left_iff]

/-- What is found first in a list of lists is found in the first of them that has it. -/
theorem findSome?_flatMap {γ : Type} (parts : α → List β) (test : β → Option γ) (items : List α) :
    (items.flatMap parts).findSome? test =
      items.findSome? fun item => (parts item).findSome? test := by
  induction items with
  | nil => rfl
  | cons head rest inductionHypothesis =>
    rw [List.flatMap_cons, List.findSome?_append, inductionHypothesis, List.findSome?_cons]
    cases (parts head).findSome? test <;> rfl

end Faults

/-! ## The first unknown reference -/

/-- The names that an automaton refers to events by, in the order of their resolution. -/
def AutomatonEntry.eventNames (entry : AutomatonEntry) : List String :=
  entry.transitions.map TransitionEntry.trigger ++ entry.events

namespace Document

/-- The references of a document: the names of an automaton and of an event. -/
def references (document : Document) : List (String × String) :=
  (document.supervisors ++ document.plants).flatMap fun entry =>
    entry.eventNames.map fun name => (entry.name, name)

/-- No entry of the global list has the name. -/
def Unknown (document : Document) (name : String) : Prop :=
  name ∉ document.events.map EventEntry.name

instance (document : Document) (name : String) : Decidable (document.Unknown name) :=
  inferInstanceAs (Decidable (¬ _))

theorem names_eventList (document : Document) :
    document.eventList.map Event.name = document.events.map EventEntry.name :=
  List.map_map

end Document

theorem eventNamed?_eq_none_iff {events : List Event} {name : String} :
    eventNamed? events name = none ↔ name ∉ events.map Event.name := by
  rw [eventNamed?, List.getLast?_eq_none_iff, List.filter_eq_nil_iff]
  simp

/-- A name stands for an event with this name. -/
theorem name_of_named {events : List Event} {name : String} {event : Event}
    (named : eventNamed? events name = some event) : event.name = name := by
  have kept := List.mem_of_getLast? named
  exact beq_iff_eq.mp (List.mem_filter.mp kept).2

namespace AutomatonEntry

variable {entry : AutomatonEntry} {events : List Event}

theorem lookUp_eq_ok_iff {name : String} {event : Event} :
    entry.lookUp events name = .ok event ↔ eventNamed? events name = some event := by
  rw [lookUp]
  cases eventNamed? events name <;> simp

/-- A name without an event is reported together with the automaton. -/
theorem fault?_lookUp (name : String) :
    fault? (entry.lookUp events name) =
      if name ∈ events.map Event.name then none else some ⟨entry.name, name⟩ := by
  by_cases known : name ∈ events.map Event.name
  · rw [if_pos known, fault?_eq_none_iff]
    obtain ⟨event, named⟩ := Option.ne_none_iff_exists'.mp
      (mt eventNamed?_eq_none_iff.mp (not_not_intro known))
    exact ⟨event, lookUp_eq_ok_iff.mpr named⟩
  · rw [if_neg known, lookUp, eventNamed?_eq_none_iff.mpr known]
    rfl

/-- An automaton fails with the first of its references that fails. -/
theorem fault?_resolve :
    fault? (entry.resolve events) =
      entry.eventNames.findSome? fun name => fault? (entry.lookUp events name) := by
  have step (step : TransitionEntry) : fault? (entry.transition events step) =
      fault? (entry.lookUp events step.trigger) := by
    rw [transition, fault?_bind_pure]
  have listed (transitions : List Transition) :
      fault? (do
        let alphabet ← entry.events.mapM (entry.lookUp events)
        return entry.automaton transitions alphabet) =
      entry.events.findSome? fun name => fault? (entry.lookUp events name) := by
    rw [fault?_bind_pure, fault?_mapM]
  rw [resolve_eq, fault?_bind listed, fault?_mapM, eventNames, List.findSome?_append,
    List.findSome?_map]
  simp only [step]
  rfl

end AutomatonEntry

namespace Document

/-- A document fails with the first of its automata that fails, supervisors first. -/
theorem fault?_resolve_automata (document : Document) :
    fault? document.resolve = (document.supervisors ++ document.plants).findSome? fun entry =>
      fault? (entry.resolve document.eventList) := by
  have controlled (supervisors : List Automaton) :
      fault? (do
        let plants ← document.plants.mapM (AutomatonEntry.resolve · document.eventList)
        return ControlSystem.mk supervisors plants document.eventList) =
      document.plants.findSome? fun entry => fault? (entry.resolve document.eventList) := by
    rw [fault?_bind_pure, fault?_mapM]
  rw [resolve, fault?_bind controlled, fault?_mapM, List.findSome?_append]

/-- A document fails with the first of its references that is unknown. -/
theorem fault?_resolve (document : Document) :
    fault? document.resolve = document.references.findSome? fun reference =>
      if document.Unknown reference.2 then some ⟨reference.1, reference.2⟩ else none := by
  rw [fault?_resolve_automata, references, findSome?_flatMap]
  congr
  funext entry
  rw [AutomatonEntry.fault?_resolve, List.findSome?_map]
  congr
  funext name
  have known : name ∈ document.eventList.map Event.name ↔ ¬ document.Unknown name := by
    rw [names_eventList, Unknown, not_not]
  simp only [AutomatonEntry.fault?_lookUp, Function.comp_apply, known, ite_not]

/-- The reference that is reported is the first unknown one. -/
theorem resolve_eq_error_iff {document : Document} {automaton event : String} :
    document.resolve = .error ⟨automaton, event⟩ ↔
      FirstWith (fun reference => document.Unknown reference.2) document.references
        (automaton, event) := by
  rw [← fault?_eq_some_iff, fault?_resolve, List.findSome?_eq_some_iff]
  constructor
  · rintro ⟨front, ⟨name, referred⟩, back, split, reported, known⟩
    by_cases unknown : document.Unknown referred
    · rw [if_pos unknown] at reported
      cases reported
      exact ⟨front, back, split, unknown, fun earlier member => by simpa using known earlier member⟩
    · rw [if_neg unknown] at reported
      cases reported
  · rintro ⟨front, back, split, unknown, known⟩
    exact ⟨front, (automaton, event), back, split, if_pos unknown,
      fun earlier member => if_neg (known earlier member)⟩

/-- Without an unknown reference the document has a system. -/
theorem exists_resolve_iff {document : Document} :
    (∃ system, document.resolve = .ok system) ↔
      ∀ reference ∈ document.references, ¬ document.Unknown reference.2 := by
  rw [← fault?_eq_none_iff, fault?_resolve, List.findSome?_eq_none_iff]
  simp

/-- With an unknown reference it has none, but an error. -/
theorem exists_error_iff {document : Document} :
    (∃ reference, document.resolve = .error reference) ↔
      ∃ reference ∈ document.references, document.Unknown reference.2 := by
  constructor
  · rintro ⟨⟨automaton, event⟩, refused⟩
    obtain ⟨front, back, split, unknown, -⟩ := resolve_eq_error_iff.mp refused
    exact ⟨(automaton, event), by rw [split]; exact List.mem_append_cons_self, unknown⟩
  · rintro ⟨reference, member, unknown⟩
    cases outcome : document.resolve with
    | error reported => exact ⟨reported, rfl⟩
    | ok system => exact absurd unknown (exists_resolve_iff.mp ⟨system, outcome⟩ reference member)

end Document

/-! ## What the names stand for -/

/-- The names of a transition. -/
def TransitionEntry.ofTransition (transition : Transition) : TransitionEntry :=
  ⟨transition.origin.name, transition.trigger.name, transition.destination.name⟩

/-- The event has the kind that the last entry of its name gives. -/
def LastDeclared (entries : List EventEntry) (event : Event) : Prop :=
  ∃ last, LastWith (·.name = event.name) entries last ∧ event.isControllable = last.controllable

namespace AutomatonEntry

/-- The names of an automaton's states: the initial state, the ends of the transitions, and the
declared states. -/
def stateNames (entry : AutomatonEntry) : List String :=
  entry.initial :: entry.transitions.flatMap (fun step => [step.origin, step.destination]) ++
    entry.states.map StateEntry.name

/-- The state has the marking that the last entry of its name gives, and none without an entry. -/
def LastMarked (entry : AutomatonEntry) (state : State) : Prop :=
  (∃ last, LastWith (·.name = state.name) entry.states last ∧ state.isMarked = last.marked) ∨
    (∀ declared ∈ entry.states, declared.name ≠ state.name) ∧ state.isMarked = false

/-- The automaton that an entry describes, in terms of names. All ends of transitions are states of
the automaton and all triggers are events of it, so the last two clauses speak of them as well. -/
structure Describes (entry : AutomatonEntry) (events : List EventEntry) (automaton : Automaton) :
    Prop where
  name : automaton.name = entry.name
  initial : automaton.initial.name = entry.initial
  transitions : automaton.transitions.map TransitionEntry.ofTransition = entry.transitions
  states : FirstAppearances entry.stateNames (automaton.states.map State.name)
  alphabet : FirstAppearances entry.eventNames (automaton.events.map Event.name)
  marked : ∀ state ∈ automaton.states, entry.LastMarked state
  declared : ∀ event ∈ automaton.events, LastDeclared events event

end AutomatonEntry

/-- The system that a document describes: the global list as it is, and an automaton for each entry
in order. -/
structure Document.Describes (document : Document) (system : ControlSystem) : Prop where
  events : system.events = document.events.map EventEntry.event
  supervisors : List.Forall₂ (fun entry automaton => entry.Describes document.events automaton)
    document.supervisors system.supervisors
  plants : List.Forall₂ (fun entry automaton => entry.Describes document.events automaton)
    document.plants system.plants

/-- The event of an entry is the one with its name and its kind. -/
theorem EventEntry.event_eq_iff {entry : EventEntry} {event : Event} :
    entry.event = event ↔
      entry.name = event.name ∧ event.isControllable = entry.controllable := by
  rcases entry with ⟨name, _ | _⟩ <;> rcases event with ⟨other, _ | _⟩ <;>
    simp [EventEntry.event, Event.isControllable, Controllability.ofBool]

/-- A declared event is in the global list. -/
theorem LastDeclared.mem {entries : List EventEntry} {event : Event}
    (declared : LastDeclared entries event) : event ∈ entries.map EventEntry.event := by
  obtain ⟨last, ⟨front, back, rfl, sameName, -⟩, sameKind⟩ := declared
  rw [← EventEntry.event_eq_iff.mpr ⟨sameName, sameKind⟩]
  exact List.mem_map_of_mem List.mem_append_cons_self

/-- The event that a name stands for is the last one declared with this name. -/
theorem lastDeclared_of_named {entries : List EventEntry} {event : Event}
    (named : eventNamed? (entries.map EventEntry.event) event.name = some event) :
    LastDeclared entries event := by
  rw [eventNamed?, List.filter_map, List.getLast?_map, Option.map_eq_some_iff] at named
  obtain ⟨last, counts, same⟩ := named
  exact ⟨last, getLast?_named_iff.mp counts, (EventEntry.event_eq_iff.mp same).2⟩

namespace AutomatonEntry

variable {entry : AutomatonEntry}

/-- The state of a name has the marking that was declared last. -/
theorem lastMarked_state (name : String) : entry.LastMarked (entry.state name) := by
  have marked : (entry.state name).isMarked = (entry.marking name == .marked) := rfl
  cases counts : (entry.states.filter fun state => state.name == name).getLast? with
  | none =>
    right
    constructor
    · rw [List.getLast?_eq_none_iff, List.filter_eq_nil_iff] at counts
      intro declared member sameName
      exact counts declared member (beq_iff_eq.mpr sameName)
    · rw [marked, marking, counts]
      rfl
  | some last =>
    left
    refine ⟨last, getLast?_named_iff.mp counts, ?_⟩
    rw [marked, marking, counts]
    rcases last with ⟨lastName, _ | _⟩ <;> rfl

section Resolved

variable {events : List Event} {transitions : List Transition} {alphabet : List Event}

/-- A transition is made of the states and of the event that its names stand for. -/
theorem transition_eq_ok_iff {step : TransitionEntry} {transition : Transition} :
    entry.transition events step = .ok transition ↔
      ∃ trigger, eventNamed? events step.trigger = some trigger ∧
        transition = ⟨entry.state step.origin, trigger, entry.state step.destination⟩ := by
  rw [AutomatonEntry.transition, bind_eq_ok]
  constructor
  · rintro ⟨trigger, found, finished⟩
    cases finished
    exact ⟨trigger, lookUp_eq_ok_iff.mp found, rfl⟩
  · rintro ⟨trigger, named, rfl⟩
    exact ⟨trigger, lookUp_eq_ok_iff.mpr named, rfl⟩

variable (steps : entry.transitions.mapM (entry.transition events) = .ok transitions)
include steps

/-- The transitions have the names of their entries. -/
theorem names_of_steps : transitions.map TransitionEntry.ofTransition = entry.transitions := by
  refine map_of_mapM_ok ?_ steps
  intro step transition made
  obtain ⟨trigger, named, rfl⟩ := transition_eq_ok_iff.mp made
  show TransitionEntry.mk step.origin trigger.name step.destination = step
  rw [name_of_named named]

/-- The states are listed by first appearance of their names, since a name stands for one state. -/
theorem states_firstAppearances :
    FirstAppearances entry.stateNames
      ((entry.automaton transitions alphabet).states.map State.name) := by
  have names : (entry.state entry.initial :: transitions.flatMap Transition.ends ++
      entry.states.map fun declared => entry.state declared.name).map State.name =
        entry.stateNames := by
    rw [stateNames, ← names_of_steps steps]
    simp only [List.map_append, List.map_cons, List.map_flatMap, List.flatMap_map, List.map_map]
    rfl
  have byName := automaton_markedByName steps alphabet
  rw [Automaton.MarkedByName, states_automaton] at byName
  rw [states_automaton, ← names]
  exact FirstAppearances.map_eraseDups byName

variable (names : entry.events.mapM (entry.lookUp events) = .ok alphabet)
include names

/-- Every event of the alphabet is what its name stands for. -/
theorem named_of_mem_events {event : Event}
    (member : event ∈ (entry.automaton transitions alphabet).events) :
    eventNamed? events event.name = some event := by
  rw [events_automaton, List.mem_eraseDups, List.mem_append, List.mem_map] at member
  rcases member with ⟨transition, listed, rfl⟩ | listed
  · obtain ⟨step, -, made⟩ := mem_of_mapM_ok steps listed
    obtain ⟨trigger, named, rfl⟩ := transition_eq_ok_iff.mp made
    rwa [name_of_named named]
  · obtain ⟨name, -, found⟩ := mem_of_mapM_ok names listed
    have named := lookUp_eq_ok_iff.mp found
    rwa [name_of_named named]

/-- So the alphabet is listed by first appearance of names too. -/
theorem events_firstAppearances :
    FirstAppearances entry.eventNames
      ((entry.automaton transitions alphabet).events.map Event.name) := by
  have triggers : transitions.map (fun transition => transition.trigger.name) =
      entry.transitions.map TransitionEntry.trigger := by
    rw [← names_of_steps steps, List.map_map]
    rfl
  have others : alphabet.map Event.name = entry.events :=
    map_of_mapM_ok (fun _ _ found => name_of_named (lookUp_eq_ok_iff.mp found)) names
  have together : (transitions.map Transition.trigger ++ alphabet).map Event.name =
      entry.eventNames := by
    rw [List.map_append, List.map_map, others, eventNames, ← triggers]
    rfl
  rw [events_automaton, ← together]
  apply FirstAppearances.map_eraseDups
  intro event member other otherMember sameName
  rw [← events_automaton entry] at member otherMember
  have same : some event = some other := by
    rw [← named_of_mem_events steps names member, ← named_of_mem_events steps names otherMember,
      sameName]
  exact Option.some.inj same

end Resolved

/-- Resolution gives the automaton that the entry describes. -/
theorem describes_of_resolve {entries : List EventEntry} {automaton : Automaton}
    (resolved : entry.resolve (entries.map EventEntry.event) = .ok automaton) :
    entry.Describes entries automaton := by
  rw [resolve_eq] at resolved
  obtain ⟨transitions, steps, following⟩ := bind_eq_ok.mp resolved
  obtain ⟨alphabet, names, finished⟩ := bind_eq_ok.mp following
  cases finished
  exact {
    name := rfl
    initial := rfl
    transitions := names_of_steps steps
    states := states_firstAppearances steps
    alphabet := events_firstAppearances steps names
    marked := fun state member => by
      rw [eq_state_of_mem steps member]
      exact lastMarked_state state.name
    declared := fun event member => lastDeclared_of_named (named_of_mem_events steps names member) }

end AutomatonEntry

namespace Document

/-- Resolution gives the system that the document describes. -/
theorem describes_of_resolve {document : Document} {system : ControlSystem}
    (resolved : document.resolve = .ok system) : document.Describes system := by
  obtain ⟨supervisors, supervising, following⟩ := bind_eq_ok.mp resolved
  obtain ⟨plants, controlled, finished⟩ := bind_eq_ok.mp following
  cases finished
  exact {
    events := rfl
    supervisors := (forall₂_of_mapM_ok supervising).imp fun _ _ =>
      AutomatonEntry.describes_of_resolve
    plants := (forall₂_of_mapM_ok controlled).imp fun _ _ =>
      AutomatonEntry.describes_of_resolve }

/-- The automata of a resolved document have each name once, and know only events of the global
list. -/
theorem names_nodup_of_resolve {document : Document} {system : ControlSystem}
    (resolved : document.resolve = .ok system) {automaton : Automaton}
    (member : automaton ∈ system.supervisors ++ system.plants) :
    (automaton.states.map State.name).Nodup ∧ (automaton.events.map Event.name).Nodup ∧
      automaton.events ⊆ system.events := by
  obtain ⟨entry, -, found⟩ := exists_entry_of_resolve resolved member
  have described : entry.Describes document.events automaton :=
    AutomatonEntry.describes_of_resolve found
  refine ⟨described.states.nodup, described.alphabet.nodup, ?_⟩
  intro event known
  rw [(describes_of_resolve resolved).events]
  exact (described.declared event known).mem

/-- How the names of a document are resolved. A text that is read to the document has the same
outcome, with an unknown reference as its error. Resolution fails exactly when some reference names
no event of the global list, and it reports the first such reference. Otherwise the document
describes a system, in which every name stands for its last declaration; there the states of an
automaton have different names, as have its events, and all of them are in the global list. -/
theorem references_resolved (document : Document) :
    (∀ text, Document.read text = .ok document →
      parse text = document.resolve.mapError LoadError.unknownEvent) ∧
    ((∃ reference, document.resolve = .error reference) ↔
      ∃ reference ∈ document.references, document.Unknown reference.2) ∧
    (∀ automaton event, document.resolve = .error ⟨automaton, event⟩ ↔
      FirstWith (fun reference => document.Unknown reference.2) document.references
        (automaton, event)) ∧
    ((∀ reference ∈ document.references, ¬ document.Unknown reference.2) →
      ∃ system, document.resolve = .ok system ∧ document.Describes system ∧
        ∀ automaton ∈ system.supervisors ++ system.plants,
          (automaton.states.map State.name).Nodup ∧ (automaton.events.map Event.name).Nodup ∧
            automaton.events ⊆ system.events) := by
  refine ⟨?_, ?_, ?_, ?_⟩
  · intro text accepted
    simp only [parse, accepted]
    cases document.resolve <;> rfl
  · exact exists_error_iff
  · exact fun _ _ => resolve_eq_error_iff
  · intro known
    obtain ⟨system, resolved⟩ := exists_resolve_iff.mpr known
    exact ⟨system, resolved, describes_of_resolve resolved,
      fun _ member => names_nodup_of_resolve resolved member⟩

/-- A listed event of a supervisor comes before all references of the plants, and behind the
triggers of its own transitions. -/
example :
    let supervisor : AutomatonEntry := ⟨"S", "s", [], ["b"], [⟨"s", "a", "s"⟩]⟩
    let plant : AutomatonEntry := ⟨"P", "p", [], [], [⟨"p", "c", "p"⟩]⟩
    Document.resolve ⟨[⟨"a", true⟩], [supervisor], [plant]⟩ = .error ⟨"S", "b"⟩ ∧
      Document.resolve ⟨[], [supervisor], [plant]⟩ = .error ⟨"S", "a"⟩ := ⟨rfl, rfl⟩

end Document

end SupervisoryLadder.Model
