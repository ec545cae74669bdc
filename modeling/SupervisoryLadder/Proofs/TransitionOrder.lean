import SupervisoryLadder.Proofs.Assembly
import SupervisoryLadder.Proofs.DisablementFlags
import SupervisoryLadder.Proofs.References
import SupervisoryLadder.Proofs.RungOrder

/-!
# The order of a plant's transitions

The order in which a plant lists its transitions shows in three places: in its states, in its
alphabet and in the moves that are sorted into rungs. The states of a plant reach the program only
through its moves and its initial state. The alphabet reaches it only through the events with a
flag, and adds nothing to those of the global list when that list has all commands. The sort has one
result for all lists in which moves with one key stand in the same order. So the program stays the
same, ids included, under every rearrangement that keeps the order within such ties.
-/

namespace SupervisoryLadder

/-- Every controllable event that an automaton knows is in the global list. -/
def ControlSystem.CommandsListed (system : ControlSystem) : Prop :=
  ∀ automaton ∈ system.supervisors ++ system.plants, ∀ event ∈ automaton.events,
    event.isControllable = true → event ∈ system.events

instance (system : ControlSystem) : Decidable system.CommandsListed :=
  inferInstanceAs (Decidable (∀ automaton ∈ system.supervisors ++ system.plants, _))

/-! ## Resolved documents -/

namespace Model

/-- The system of a model text has all its commands in the global list. -/
theorem commandsListed_of_parse {text : String} {system : ControlSystem}
    (parsed : parse text = .ok system) : system.CommandsListed := by
  unfold parse at parsed
  split at parsed
  · cases parsed
  · next document _ =>
    split at parsed
    · cases parsed
    · next described resolved =>
      cases parsed
      intro automaton member event known _
      exact (Document.names_nodup_of_resolve resolved member).2.2 known

end Model

namespace Ladder

/-! ## Flags -/

/-- Of two lists of events one after another, the second adds what has a new name. -/
theorem firstOfName_append (front back : List Event) :
    firstOfName (front ++ back) = firstOfName front ++
      (firstOfName back).filter fun event => event.name ∉ front.map Event.name := by
  induction front with
  | nil => simp [firstOfName]
  | cons event rest inductionHypothesis =>
    rw [List.cons_append, firstOfName, firstOfName, inductionHypothesis, List.filter_append,
      List.filter_filter, List.cons_append]
    congr 2
    apply List.filter_congr
    intro other _
    rw [Bool.eq_iff_iff]
    simp

/-- When all commands are in the global list, the alphabets add no flag to it. -/
theorem flaggedEvents_of_listed {system : ControlSystem} (listed : system.CommandsListed) :
    flaggedEvents system = firstOfName (system.events.filter Event.isControllable) := by
  rw [flaggedEvents, List.filter_append, firstOfName_append]
  have nothing : ((firstOfName (((system.supervisors ++ system.plants).flatMap
      Automaton.events).filter Event.isControllable)).filter fun event =>
        event.name ∉ (system.events.filter Event.isControllable).map Event.name) = [] := by
    rw [List.filter_eq_nil_iff]
    intro event kept
    obtain ⟨known, controllable⟩ := List.mem_filter.mp (mem_of_mem_firstOfName kept)
    obtain ⟨automaton, member, present⟩ := List.mem_flatMap.mp known
    have named : event.name ∈ (system.events.filter Event.isControllable).map Event.name := by
      apply List.mem_map_of_mem
      exact List.mem_filter.mpr ⟨listed automaton member event present controllable, controllable⟩
    simp only [named, not_true_eq_false, decide_false, Bool.false_eq_true, not_false_eq_true]
  rw [nothing, List.append_nil]

/-! ## Moves -/

/-- The other transition changes the state, and it agrees with this one in the name of the origin
and in the kind of the event. -/
def Ties (transition other : Transition) : Prop :=
  other.origin ≠ other.destination ∧ other.origin.name = transition.origin.name ∧
    other.trigger.kind = transition.trigger.kind

instance (transition other : Transition) : Decidable (Ties transition other) :=
  inferInstanceAs (Decidable (_ ∧ _))

/-- The second list has the transitions of the first, and those that tie with any one of them stand
in the same order. Self-loops tie with nothing, so they may stand anywhere. -/
structure KeepsTies (transitions rearranged : List Transition) : Prop where
  permuted : rearranged.Perm transitions
  tied : ∀ transition ∈ transitions,
    rearranged.filter (Ties transition ·) = transitions.filter (Ties transition ·)

/-- The moves with one key are the same in both lists. If there are none, there are none in either
list; otherwise they are what ties with one of them. -/
theorem KeepsTies.filter_rungKey {plant other : Automaton}
    (keeps : KeepsTies plant.transitions other.transitions) (key : String × Controllability) :
    other.moves.filter (rungKey · = key) = plant.moves.filter (rungKey · = key) := by
  by_cases found : ∃ transition ∈ plant.transitions, rungKey transition = key
  · obtain ⟨transition, present, rfl⟩ := found
    have ties (automaton : Automaton) :
        automaton.moves.filter (rungKey · = rungKey transition) =
          automaton.transitions.filter (Ties transition ·) := by
      rw [Automaton.moves, List.filter_filter]
      apply List.filter_congr
      intro candidate _
      rw [Bool.eq_iff_iff]
      simp [Ties, rungKey, Transition.isSelfLoop, and_comm]
    rw [ties, ties]
    exact keeps.tied transition present
  · have none {automaton : Automaton} (within : automaton.transitions ⊆ plant.transitions) :
        automaton.moves.filter (rungKey · = key) = [] := by
      rw [List.filter_eq_nil_iff]
      intro candidate moves keyed
      have present := within (Automaton.mem_moves.mp moves).1
      exact found ⟨candidate, present, of_decide_eq_true keyed⟩
    rw [none keeps.permuted.subset, none (List.Subset.refl _)]

/-- So they are sorted into the same rungs. -/
theorem KeepsTies.orderedMoves_eq {plant other : Automaton}
    (keeps : KeepsTies plant.transitions other.transitions) :
    orderedMoves other = orderedMoves plant := by
  have generated := orderedMoves_sensedFirst other
  apply SensedFirst.eq_orderedMoves
  exact {
    rearranged := generated.rearranged.trans (keeps.permuted.filter _)
    sorted := generated.sorted
    stable := fun key => (generated.stable key).trans (keeps.filter_rungKey key) }

/-! ## Programs -/

/-- All commands stay in the global list when a plant is replaced by one that knows no more. -/
theorem commandsListed_replace {supervisors before after : List Automaton} {events : List Event}
    {plant other : Automaton}
    (listed : ControlSystem.CommandsListed ⟨supervisors, before ++ plant :: after, events⟩)
    (within : other.events ⊆ plant.events) :
    ControlSystem.CommandsListed ⟨supervisors, before ++ other :: after, events⟩ := by
  intro automaton member event known
  by_cases replaced : automaton = other
  · subst replaced
    exact listed plant (by simp) event (within known)
  · apply listed automaton _ event known
    simp only [List.mem_append, List.mem_cons, replaced, false_or] at member ⊢
    exact member.imp_right (Or.imp_right .inr)

/-- A plant may be replaced by one of the same name and initial state that knows no more events, if
its transitions keep their ties and all commands are in the global list. -/
theorem generate_replace {supervisors before after : List Automaton} {events : List Event}
    {plant other : Automaton} (sameName : other.name = plant.name)
    (sameInitial : other.initial = plant.initial) (within : other.events ⊆ plant.events)
    (keeps : KeepsTies plant.transitions other.transitions)
    (listed : ControlSystem.CommandsListed ⟨supervisors, before ++ plant :: after, events⟩) :
    generate ⟨supervisors, before ++ other :: after, events⟩ =
      generate ⟨supervisors, before ++ plant :: after, events⟩ := by
  have sameRungs : plantRungs other = plantRungs plant := by
    rw [plantRungs, plantRungs, keeps.orderedMoves_eq, sameName]
  apply generate_congr
  funext place
  cases place with
  | supervisors => rfl
  | disablement =>
    rw [sectionRungs, sectionRungs, flaggedEvents_of_listed listed,
      flaggedEvents_of_listed (commandsListed_replace listed within)]
  | plants => simp only [sectionRungs, List.flatMap_append, List.flatMap_cons, sameRungs]
  | procedures =>
    simp only [sectionRungs, initialSignals, List.map_append, List.map_cons, sameName, sameInitial]

/-- The order of a plant's transitions matters only within ties. All commands of a system that is
read from a model text are in its global list. Let this hold of a system, and let one of its plants
be put together anew from the same transitions in another order that keeps every tie. Then the
program is the same, ids included. -/
theorem tied_order_fixes_program :
    (∀ text system, Model.parse text = .ok system → system.CommandsListed) ∧
      ∀ system : ControlSystem, system.CommandsListed →
        ∀ before after name initial transitions extensions,
          system.plants =
            before ++ Automaton.assemble name initial transitions extensions :: after →
          ∀ rearranged, KeepsTies transitions rearranged →
            generate { system with
              plants := before ++ Automaton.assemble name initial rearranged extensions :: after } =
                generate system := by
  refine ⟨fun _ _ => Model.commandsListed_of_parse, ?_⟩
  rintro ⟨supervisors, plants, events⟩ listed before after name initial transitions extensions rfl
    rearranged keeps
  obtain ⟨sameName, sameInitial, given⟩ :=
    Automaton.assemble_core name initial transitions extensions
  obtain ⟨newName, newInitial, changed⟩ :=
    Automaton.assemble_core name initial rearranged extensions
  apply generate_replace
  · rw [newName, sameName]
  · rw [newInitial, sameInitial]
  · intro event known
    rw [Automaton.mem_events_assemble] at known ⊢
    rwa [(keeps.permuted.map Transition.trigger).mem_iff] at known
  · rw [given, changed]
    exact keeps
  · exact listed

namespace Mixer

def empty : State := ⟨"empty", .marked⟩
def filled : State := ⟨"filled", .unmarked⟩
def stirring : State := ⟨"stirring", .unmarked⟩
def fill : Event := ⟨"fill", .controllable⟩
def rinse : Event := ⟨"rinse", .controllable⟩
def stir : Event := ⟨"stir", .controllable⟩
def leak : Event := ⟨"leak", .uncontrollable⟩

/-- A mixer that is filled or rinsed while it is empty, and that may be stirred on. -/
def transitions : List Transition :=
  [⟨filled, stir, stirring⟩, ⟨empty, fill, filled⟩, ⟨stirring, stir, stirring⟩,
    ⟨empty, rinse, stirring⟩, ⟨filled, leak, empty⟩]

/-- The same transitions with the self-loop in front; only filling and rinsing have to stay in
order. -/
def rearranged : List Transition :=
  [⟨stirring, stir, stirring⟩, ⟨empty, fill, filled⟩, ⟨filled, leak, empty⟩,
    ⟨empty, rinse, stirring⟩, ⟨filled, stir, stirring⟩]

/-- The mixer with an event besides, from transitions in some order. -/
def plant (order : List Transition) : Automaton :=
  Automaton.assemble "M" empty order [.events [⟨"drain", .controllable⟩]]

/-- The system with the mixer as its only plant. -/
def system (order : List Transition) : ControlSystem :=
  ⟨[], [plant order], [⟨"drain", .controllable⟩, stir, leak, fill, rinse]⟩

end Mixer

/-- The rearranged mixer lists its states and events differently, and its program is the same. -/
theorem rearranged_mixer_same_program :
    (Mixer.system Mixer.transitions).CommandsListed ∧
      KeepsTies Mixer.transitions Mixer.rearranged ∧
      (Mixer.plant Mixer.rearranged).states ≠ (Mixer.plant Mixer.transitions).states ∧
      (Mixer.plant Mixer.rearranged).events ≠ (Mixer.plant Mixer.transitions).events ∧
      generate (Mixer.system Mixer.rearranged) = generate (Mixer.system Mixer.transitions) := by
  have listed : (Mixer.system Mixer.transitions).CommandsListed := by decide
  have keeps : KeepsTies Mixer.transitions Mixer.rearranged := ⟨by decide, by decide⟩
  refine ⟨listed, keeps, by decide, by decide, ?_⟩
  exact tied_order_fixes_program.2 _ listed [] [] "M" Mixer.empty Mixer.transitions
    [.events [⟨"drain", .controllable⟩]] rfl Mixer.rearranged keeps

end Ladder

end SupervisoryLadder
