import Mathlib.Data.List.Pairwise
import SupervisoryLadder.Proofs.DisablementFlags

/-!
# Different signals with different variables

Names decide whether automata disturb each other: nothing keeps the bit of one state from having
the name of another one, or of an event. A system has distinct signals when the bits of all states
of all automata, the variables of its events and the start request are pairwise different names,
where an event that appears with both kinds counts once. The condition is a list without
repetitions, so it is decided by evaluation.
-/

namespace SupervisoryLadder.Ladder

/-- The variables of all states of all automata. -/
def stateBits (system : ControlSystem) : List String :=
  (components system).flatMap Component.bits

/-- The variables of the events, one for each name. -/
def occurrenceNames (system : ControlSystem) : List String :=
  (firstOfName (systemEvents system)).map fun event => (Signal.occurrence event).variableName

/-- The variables that command and forbid events, one for each name, and the start request. -/
def commandNames (system : ControlSystem) : List String :=
  ((flaggedEvents system).map Signal.petition ++ (flaggedEvents system).map Signal.disablement ++
    [Signal.start]).map Signal.variableName

/-- Different signals of the system have different variables. -/
def DistinctSignals (system : ControlSystem) : Prop :=
  (stateBits system ++ (occurrenceNames system ++ commandNames system)).Nodup

instance (system : ControlSystem) : Decidable (DistinctSignals system) :=
  inferInstanceAs (Decidable (List.Nodup _))

/-- The start request is for the bits of the initial states of all automata. -/
theorem initialSignals_names (system : ControlSystem) :
    (initialSignals system).map Signal.variableName =
      (components system).map fun component => component.bit component.automaton.initial := by
  simp only [initialSignals, components, supervisorComponents, plantComponents, List.map_append,
    List.map_map]
  rfl

section Members

variable {system : ControlSystem} {event : Event}

/-- The bit of a state of an automaton is among the bits of the system. -/
theorem mem_stateBits {component : Component} (member : component ∈ components system)
    {bit : String} (listed : bit ∈ component.bits) : bit ∈ stateBits system :=
  List.mem_flatMap.mpr ⟨component, member, listed⟩

/-- Every event of the system has its variable among the listed ones, though its name may be listed
for an event of the other kind. -/
theorem occurrence_mem (member : event ∈ systemEvents system) :
    (Signal.occurrence event).variableName ∈ occurrenceNames system := by
  obtain ⟨first, listed, sameName⟩ := exists_firstOfName member
  exact List.mem_map.mpr ⟨first, listed, sameName⟩

/-- So has every controllable event for its petition and its flag. -/
theorem command_mem (member : event ∈ systemEvents system)
    (controllable : event.isControllable = true) :
    (Signal.petition event).variableName ∈ commandNames system ∧
      (Signal.disablement event).variableName ∈ commandNames system := by
  obtain ⟨first, listed, sameName⟩ := (flaggedEvents_exact system).2 event member controllable
  rw [← Signal.petition_eq_iff.mpr sameName, ← Signal.disablement_eq_iff.mpr sameName]
  exact ⟨List.mem_map_of_mem (by simp [listed]), List.mem_map_of_mem (by simp [listed])⟩

theorem start_mem : Signal.start.variableName ∈ commandNames system :=
  List.mem_map_of_mem (by simp)

end Members

namespace DistinctSignals

variable {system : ControlSystem} (distinct : DistinctSignals system)
include distinct

/-- An automaton has different bits for different states. -/
theorem bits_nodup {component : Component} (member : component ∈ components system) :
    component.bits.Nodup :=
  (List.nodup_flatMap.mp (List.nodup_append.mp distinct).1).1 component member

/-- Automata at different places of the list share no bits. -/
theorem components_apart :
    (components system).Pairwise fun left right => List.Disjoint left.bits right.bits :=
  (List.nodup_flatMap.mp (List.nodup_append.mp distinct).1).2

/-- Automata that share a bit are the same. -/
theorem eq_of_shared {left right : Component} (leftMember : left ∈ components system)
    (rightMember : right ∈ components system) {bit : String} (leftListed : bit ∈ left.bits)
    (rightListed : bit ∈ right.bits) : left = right := by
  have symmetric : Std.Symm fun left right : Component => List.Disjoint left.bits right.bits :=
    ⟨fun _ _ apart _ rightBit leftBit => apart leftBit rightBit⟩
  refine Classical.byContradiction fun different => ?_
  exact distinct.components_apart.forall leftMember rightMember different leftListed rightListed

/-- No bit is the variable of an event, of a command or of the start request. -/
theorem bit_ne {bit name : String} (listed : bit ∈ stateBits system)
    (other : name ∈ occurrenceNames system ∨ name ∈ commandNames system) : bit ≠ name :=
  (List.nodup_append.mp distinct).2.2 bit listed name (List.mem_append.mpr other)

/-- No event has the name of a command or of the start request. -/
theorem occurrence_ne {occurrence command : String} (listed : occurrence ∈ occurrenceNames system)
    (other : command ∈ commandNames system) : occurrence ≠ command :=
  (List.nodup_append.mp (List.nodup_append.mp distinct).2.1).2.2 occurrence listed command other

end DistinctSignals

end SupervisoryLadder.Ladder
