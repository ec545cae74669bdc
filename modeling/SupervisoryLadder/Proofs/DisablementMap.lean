import SupervisoryLadder.Disablement

/-!
# What the disablement map holds

The map is built by additions to sorted entries, one supervisor after another. Seen through its
look-up it is simple: an addition extends one entry, a union joins the entries of both maps, and the
map of a list of supervisors has, for an event, the variables of exactly those states that forbid
it.
-/

namespace SupervisoryLadder

/-- What holds behind a loop held before it or came from one of the items, if every round adds what
its item brings and takes nothing away. All maps and sets here are filled by such loops. -/
theorem foldl_holds_iff {α β : Type} {round : β → α → β} (holds : β → Prop) {brings : α → Prop}
    (each : ∀ current item, holds (round current item) ↔ holds current ∨ brings item)
    (items : List α) (start : β) :
    holds (items.foldl round start) ↔ holds start ∨ ∃ item ∈ items, brings item := by
  induction items generalizing start with
  | nil => simp
  | cons item rest inductionHypothesis =>
    rw [List.foldl_cons, inductionHypothesis, each, or_assoc]
    simp only [List.mem_cons, exists_eq_or_imp]

namespace NameSet

/-- Inserting names one after another adds exactly these names. -/
theorem mem_foldl_insert (names : List String) (set : NameSet) (name : String) :
    name ∈ (names.foldl insert set).names ↔ name ∈ set.names ∨ name ∈ names := by
  have inserted (current : NameSet) (item : String) :
      name ∈ (current.insert item).names ↔ name ∈ current.names ∨ name = item := by
    rw [insert, mem_place, or_comm]
  rw [foldl_holds_iff (name ∈ NameSet.names ·) inserted]
  simp

theorem mem_union (left right : NameSet) (name : String) :
    name ∈ (left.union right).names ↔ name ∈ left.names ∨ name ∈ right.names :=
  mem_foldl_insert right.names left name

theorem mem_ofList (names : List String) (name : String) :
    name ∈ (ofList names).names ↔ name ∈ names := by
  rw [ofList, mem_foldl_insert]
  simp [empty]

end NameSet

/-- A controllable event is known by its kind and its name. -/
theorem Event.eq_iff_of_controllable {event other : Event}
    (controllable : event.isControllable = true) :
    other = event ↔ other.isControllable = true ∧ other.name = event.name := by
  cases other
  cases event
  simp_all [Event.isControllable, and_comm]

/-- The automaton forbids the event of this name in the state: the event is one of its controllable
events, but no transition from the state has it as a controllable trigger. -/
def Automaton.Forbids (automaton : Automaton) (state : State) (event : String) : Prop :=
  (∃ known ∈ automaton.events, known.isControllable = true ∧ known.name = event) ∧
    ∀ transition ∈ automaton.transitions, transition.origin = state →
      transition.trigger.isControllable = true → transition.trigger.name ≠ event

instance (automaton : Automaton) (state : State) (event : String) :
    Decidable (automaton.Forbids state event) := inferInstanceAs (Decidable (_ ∧ _))

/-- A controllable event of the alphabet that is not forbidden in a state triggers a transition from
it: name and kind of the event leave no other trigger. -/
theorem Automaton.not_forbids_iff {automaton : Automaton} {state : State} {event : Event}
    (known : event ∈ automaton.events) (controllable : event.isControllable = true) :
    ¬ automaton.Forbids state event.name ↔
      ∃ transition ∈ automaton.transitions,
        transition.origin = state ∧ transition.trigger = event := by
  simp only [Event.eq_iff_of_controllable controllable]
  constructor
  · intro allowed
    refine Classical.byContradiction fun lacking => allowed ⟨⟨event, known, controllable, rfl⟩, ?_⟩
    intro transition present origin triggered same
    exact lacking ⟨transition, present, origin, triggered, same⟩
  · rintro ⟨transition, present, origin, triggered, same⟩ ⟨-, lacking⟩
    exact lacking transition present origin triggered same

namespace Disablement

/-- A look-up decides at the first key. -/
theorem lookup_cons_eq (key other : String) (known : NameSet) (rest : List (String × NameSet)) :
    ((key, known) :: rest).lookup other =
      if other = key then some known else rest.lookup other := by
  rw [List.lookup_cons]
  by_cases same : other = key
  · simp [same]
  · rw [if_neg same, beq_false_of_ne same]

/-- An event that comes before all keys has no entry. -/
theorem lookup_eq_none_of_lt {event : String} {entries : List (String × NameSet)}
    (before : ∀ key ∈ entries.map Prod.fst, event < key) : entries.lookup event = none := by
  rw [List.lookup_eq_none_iff]
  intro entry member
  have less := before entry.1 (List.mem_map_of_mem member)
  simpa using String.ne_of_lt less

/-- Placing an entry shows only under its own event. Since the keys ascend, an event that comes
before the first key has no entry yet. -/
theorem lookup_place (event : String) (names : NameSet) (entries : List (String × NameSet))
    (ascending : (entries.map Prod.fst).Pairwise (· < ·)) (other : String) :
    (place event names entries).lookup other =
      if other = event then some ((entries.lookup event).elim names (·.union names))
      else entries.lookup other := by
  induction entries with
  | nil => rw [place, lookup_cons_eq]; rfl
  | cons head rest inductionHypothesis =>
    obtain ⟨key, known⟩ := head
    rw [List.map_cons, List.pairwise_cons] at ascending
    unfold place
    split
    · next before =>
      have absent : ((key, known) :: rest).lookup event = none :=
        lookup_eq_none_of_lt fun later member => by
          rcases List.mem_cons.mp member with rfl | behind
          · exact before
          · exact String.lt_trans before (ascending.1 later behind)
      rw [lookup_cons_eq, absent]
      rfl
    · split
      · next same =>
        subst same
        rw [lookup_cons_eq, lookup_cons_eq, lookup_cons_eq, if_pos rfl]
        by_cases found : other = event <;> simp [found]
      · next different =>
        rw [lookup_cons_eq, inductionHypothesis ascending.2, lookup_cons_eq, lookup_cons_eq,
          if_neg different]
        by_cases found : other = event
        · simp [found, different]
        · simp [found]

/-- Adding names to an event forbids the event by these names and changes nothing else. -/
theorem mem_statesDisabling_add (map : Disablement) (event : String) (names : NameSet)
    (other name : String) :
    name ∈ (map.add event names).statesDisabling other ↔
      name ∈ map.statesDisabling other ∨ other = event ∧ name ∈ names.names := by
  have found : (map.add event names).get? other =
      if other = event then some ((map.get? event).elim names (·.union names))
      else map.get? other := lookup_place event names map.entries map.ascending other
  rw [statesDisabling, statesDisabling, found]
  by_cases same : other = event
  · subst same
    cases map.get? other with
    | none => simp [NameSet.empty]
    | some known => simp [NameSet.mem_union]
  · simp [same]

/-- Adding many entries forbids what any of them does. -/
theorem mem_statesDisabling_foldl {α : Type} (items : List α) (event : α → String)
    (names : α → NameSet) (map : Disablement) (other name : String) :
    name ∈ (items.foldl (fun map item => map.add (event item) (names item)) map).statesDisabling
        other ↔
      name ∈ map.statesDisabling other ∨
        ∃ item ∈ items, other = event item ∧ name ∈ (names item).names :=
  foldl_holds_iff (name ∈ statesDisabling · other) (fun map item =>
    mem_statesDisabling_add map (event item) (names item) other name) items map

/-- A look-up finds the one entry of the event. The keys ascend, so no entry before it has the same
key. -/
theorem lookup_eq_some_iff_mem {entries : List (String × NameSet)}
    (ascending : (entries.map Prod.fst).Pairwise (· < ·)) (event : String) (names : NameSet) :
    entries.lookup event = some names ↔ (event, names) ∈ entries := by
  rw [List.lookup_eq_some_iff]
  constructor
  · rintro ⟨front, behind, rfl, -⟩
    exact List.mem_append_right _ List.mem_cons_self
  · intro member
    obtain ⟨front, behind, rfl⟩ := List.mem_iff_append.mp member
    refine ⟨front, behind, rfl, ?_⟩
    intro entry before
    rw [List.map_append, List.pairwise_append] at ascending
    have less := ascending.2.2 entry.1 (List.mem_map_of_mem before) event List.mem_cons_self
    simpa using (String.ne_of_lt less).symm

/-- The names that a look-up gives are those of the entry of the event. -/
theorem mem_lookup_iff {entries : List (String × NameSet)}
    (ascending : (entries.map Prod.fst).Pairwise (· < ·)) (event name : String) :
    name ∈ ((entries.lookup event).getD NameSet.empty).names ↔
      ∃ entry ∈ entries, event = entry.1 ∧ name ∈ entry.2.names := by
  constructor
  · intro found
    cases looked : entries.lookup event with
    | none => simp [looked, NameSet.empty] at found
    | some known =>
      rw [looked] at found
      exact ⟨(event, known), (lookup_eq_some_iff_mem ascending event known).mp looked, rfl, found⟩
  · rintro ⟨⟨key, known⟩, member, rfl, found⟩
    rw [(lookup_eq_some_iff_mem ascending event known).mpr member]
    exact found

/-- A union forbids what either map forbids. -/
theorem mem_statesDisabling_union (left right : Disablement) (event name : String) :
    name ∈ (left.union right).statesDisabling event ↔
      name ∈ left.statesDisabling event ∨ name ∈ right.statesDisabling event := by
  rw [union, mem_statesDisabling_foldl, ← mem_lookup_iff right.ascending]
  rfl

/-- A state enables an event when some transition from it has the event as a controllable
trigger. -/
theorem enables_iff (automaton : Automaton) (state : State) (event : Event) :
    enables automaton state event = true ↔
      ∃ transition ∈ automaton.transitions, transition.origin = state ∧
        transition.trigger.isControllable = true ∧ transition.trigger.name = event.name := by
  simp [enables, and_assoc]

/-- One supervisor forbids an event by the variables of the states that forbid it. -/
theorem mem_statesDisabling_ofSupervisor (index : Nat) (supervisor : Automaton)
    (event name : String) :
    name ∈ (ofSupervisor index supervisor).statesDisabling event ↔
      ∃ state ∈ supervisor.states, supervisor.Forbids state event ∧
        (Signal.supervisorState index state).variableName = name := by
  rw [ofSupervisor, mem_statesDisabling_foldl]
  simp only [Automaton.controllableEvents, forbidding, NameSet.mem_ofList, List.mem_map,
    List.mem_filter]
  constructor
  · rintro (unknown | ⟨known, ⟨listed, controllable⟩, rfl, state, ⟨member, disabled⟩, rfl⟩)
    · cases unknown
    · refine ⟨state, member, ⟨⟨known, listed, controllable, rfl⟩, ?_⟩, rfl⟩
      intro transition present origin triggered same
      have enabled := (enables_iff supervisor state known).mpr
        ⟨transition, present, origin, triggered, same⟩
      simp [enabled] at disabled
  · rintro ⟨state, member, ⟨⟨known, listed, controllable, rfl⟩, lacking⟩, rfl⟩
    refine .inr ⟨known, ⟨listed, controllable⟩, rfl, state, ⟨member, ?_⟩, rfl⟩
    have disabled : ¬ enables supervisor state known = true := by
      rw [enables_iff]
      rintro ⟨transition, present, origin, triggered, same⟩
      exact lacking transition present origin triggered same
    simpa using disabled

/-- What holds of the map of a list of supervisors holds of the map of one of them, at its place in
the list, if it holds of a union only through one of its parts. -/
theorem ofSupervisors_holds_iff (holds : Disablement → Prop)
    (joined : ∀ left right, holds (left.union right) ↔ holds left ∨ holds right)
    (unheld : ¬ holds empty) (supervisors : List Automaton) :
    holds (ofSupervisors supervisors) ↔
      ∃ index supervisor, supervisors[index]? = some supervisor ∧
        holds (ofSupervisor index supervisor) := by
  rw [ofSupervisors, foldl_holds_iff holds fun map entry =>
    joined map (ofSupervisor entry.2 entry.1)]
  simp only [unheld, false_or, Prod.exists, List.mem_zipIdx_iff_getElem?]
  exact exists_comm

/-- The map of a list of supervisors has, for an event, the variables of exactly those states that
forbid it in some supervisor of the list. -/
theorem mem_statesDisabling_ofSupervisors (supervisors : List Automaton) (event name : String) :
    name ∈ (ofSupervisors supervisors).statesDisabling event ↔
      ∃ index supervisor, supervisors[index]? = some supervisor ∧
        ∃ state ∈ supervisor.states, supervisor.Forbids state event ∧
          (Signal.supervisorState index state).variableName = name := by
  have unheld : name ∉ empty.statesDisabling event := List.not_mem_nil
  rw [ofSupervisors_holds_iff (name ∈ statesDisabling · event)
    (fun left right => mem_statesDisabling_union left right event name) unheld]
  simp only [mem_statesDisabling_ofSupervisor]

end Disablement

end SupervisoryLadder
