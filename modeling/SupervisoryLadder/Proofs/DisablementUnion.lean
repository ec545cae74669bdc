import Mathlib.Data.List.Sort
import SupervisoryLadder.Proofs.DisablementContent

/-!
# Unions of disablement maps

A disablement map is known by its facts: which events have an entry, and which variables the entry
of an event has. An event without variables is a fact too, so maps that forbid the same may still
differ. Events and variables ascend, and for that reason maps with the same facts are the same map.

A union has the facts of both its parts and no others. From this all its laws follow: order,
brackets and repetitions do not matter, and the map without facts adds nothing. So the supervisors
of a system may be united in any way, and a further supervisor only adds facts.
-/

namespace SupervisoryLadder

/-- Items that ascend by a name are determined by which items there are. -/
theorem eq_of_ascending {α : Type} (name : α → String) {left right : List α}
    (leftAscending : (left.map name).Pairwise (· < ·))
    (rightAscending : (right.map name).Pairwise (· < ·))
    (same : ∀ item, item ∈ left ↔ item ∈ right) : left = right := by
  rw [List.pairwise_map] at leftAscending rightAscending
  -- No two items are each before the other, so the order of names is antisymmetric on items even
  -- where a name has several of them.
  have irreflexive : Std.Irrefl fun first second => name first < name second :=
    ⟨fun item => String.lt_irrefl (name item)⟩
  have antisymmetric : Std.Antisymm fun first second => name first < name second :=
    ⟨fun _ _ before after => absurd after (String.lt_asymm before)⟩
  exact leftAscending.eq_of_mem_iff rightAscending same

/-- One list of names is the merge of two others: it has the names of both, ascending by bytes and
none of them twice. -/
structure AscendingMerge (left right merged : List String) : Prop where
  complete : ∀ name, name ∈ merged ↔ name ∈ left ∨ name ∈ right
  ascending : (merged.map ByteOrder.bytes).Pairwise (· < ·)

namespace Disablement

/-- What can be read off from a map. -/
inductive Fact where
  /-- The event has an entry. -/
  | known (event : String)
  /-- The entry of the event has the variable. -/
  | forbidden (event name : String)

/-- The map has the fact. -/
def Holds (map : Disablement) : Fact → Prop
  | .known event => event ∈ map.events
  | .forbidden event name => name ∈ map.statesDisabling event

/-- An entry of a map is an event that is known, with the variables that are found for it. -/
theorem mem_entries_iff (map : Disablement) (event : String) (names : NameSet) :
    (event, names) ∈ map.entries ↔
      event ∈ map.events ∧ map.statesDisabling event = names.names := by
  constructor
  · intro member
    have found : map.get? event = some names :=
      (lookup_eq_some_iff_mem map.ascending event names).mpr member
    refine ⟨List.mem_map_of_mem member, ?_⟩
    rw [statesDisabling, found, Option.getD_some]
  · rintro ⟨known, same⟩
    obtain ⟨⟨key, stored⟩, member, rfl⟩ := List.mem_map.mp known
    have found : map.get? key = some stored :=
      (lookup_eq_some_iff_mem map.ascending key stored).mpr member
    rw [statesDisabling, found, Option.getD_some] at same
    rwa [← NameSet.ext same]

/-- Maps with the same facts are the same. The facts give the names of an entry first, since these
ascend, and then the entries, since their events ascend. -/
theorem eq_of_holds {left right : Disablement} (same : ∀ fact, left.Holds fact ↔ right.Holds fact) :
    left = right := by
  have sameNames (event : String) : left.statesDisabling event = right.statesDisabling event := by
    apply eq_of_ascending id
    · simpa using left.ascending_statesDisabling event
    · simpa using right.ascending_statesDisabling event
    · exact fun name => same (.forbidden event name)
  apply Disablement.ext
  apply eq_of_ascending Prod.fst left.ascending right.ascending
  rintro ⟨event, names⟩
  rw [mem_entries_iff, mem_entries_iff, sameNames]
  exact and_congr_left fun _ => same (.known event)

theorem not_holds_empty (fact : Fact) : ¬ empty.Holds fact := by
  cases fact <;> exact List.not_mem_nil

/-- A union has the facts of both maps. -/
theorem holds_union (left right : Disablement) (fact : Fact) :
    (left.union right).Holds fact ↔ left.Holds fact ∨ right.Holds fact := by
  cases fact with
  | known event => exact mem_events_union left right event
  | forbidden event name => exact mem_statesDisabling_union left right event name

theorem union_comm (left right : Disablement) : left.union right = right.union left := by
  apply eq_of_holds
  intro fact
  rw [holds_union, holds_union, or_comm]

theorem union_assoc (first second third : Disablement) :
    (first.union second).union third = first.union (second.union third) := by
  apply eq_of_holds
  intro fact
  rw [holds_union, holds_union, holds_union, holds_union, or_assoc]

theorem union_self (map : Disablement) : map.union map = map := by
  apply eq_of_holds
  intro fact
  rw [holds_union, or_self]

theorem union_empty (map : Disablement) : map.union empty = map := rfl

theorem empty_union (map : Disablement) : empty.union map = map := by
  rw [union_comm, union_empty]

/-- The variables of an event in a union are those of both maps, merged. -/
theorem statesDisabling_union (left right : Disablement) (event : String) :
    AscendingMerge (left.statesDisabling event) (right.statesDisabling event)
      ((left.union right).statesDisabling event) where
  complete := mem_statesDisabling_union left right event
  ascending := ByteOrder.ascending_bytes (ascending_statesDisabling _ event)

/-- The events of a union are those of both maps, merged. -/
theorem events_union (left right : Disablement) :
    AscendingMerge left.events right.events (left.union right).events where
  complete := mem_events_union left right
  ascending := ByteOrder.ascending_bytes (left.union right).ascending

/-- A way to unite maps of items two by two. The items may come in any order and more than once. -/
inductive Grouping (α : Type) where
  | nothing
  | single (item : α)
  | both (left right : Grouping α)

namespace Grouping

variable {α : Type}

/-- The items from left to right, as often as they occur. -/
def items : Grouping α → List α
  | nothing => []
  | single item => [item]
  | both left right => left.items ++ right.items

/-- The union of the maps of all items, with the brackets of the grouping. -/
def unite (map : α → Disablement) : Grouping α → Disablement
  | nothing => empty
  | single item => map item
  | both left right => (left.unite map).union (right.unite map)

/-- A grouping has the facts of its items, whatever its shape. -/
theorem holds_unite (map : α → Disablement) (grouping : Grouping α) (fact : Fact) :
    (grouping.unite map).Holds fact ↔ ∃ item ∈ grouping.items, (map item).Holds fact := by
  induction grouping with
  | nothing => simp [unite, items, not_holds_empty]
  | single item => simp [unite, items]
  | both left right leftHypothesis rightHypothesis =>
    rw [unite, holds_union, leftHypothesis, rightHypothesis]
    simp only [items, List.mem_append, or_and_right, exists_or]

end Grouping

/-- Supervisors united in any way, each at least once, give the map of their list. -/
theorem unite_eq_ofSupervisors {supervisors : List Automaton}
    {grouping : Grouping (Nat × Automaton)}
    (covers : ∀ index supervisor,
      (index, supervisor) ∈ grouping.items ↔ supervisors[index]? = some supervisor) :
    grouping.unite (fun entry => ofSupervisor entry.1 entry.2) = ofSupervisors supervisors := by
  apply eq_of_holds
  intro fact
  rw [Grouping.holds_unite, ofSupervisors_holds_iff (Holds · fact)
    (fun left right => holds_union left right fact) (not_holds_empty fact)]
  simp only [Prod.exists, covers]

/-- A supervisor at the end is united with the map of those before it. -/
theorem ofSupervisors_concat (supervisors : List Automaton) (supervisor : Automaton) :
    ofSupervisors (supervisors ++ [supervisor]) =
      (ofSupervisors supervisors).union (ofSupervisor supervisors.length supervisor) := by
  rw [ofSupervisors, List.zipIdx_append, List.foldl_append]
  simp [ofSupervisors]

/-- Disablement maps form a semilattice under union, with the map without events as its least
member. A union merges the variables of every event and the events of both maps, those without
variables included. Hence the map of a list of supervisors is the union of the maps of its members
at their places, taken in any order and grouping and as often as one likes, and a supervisor that is
added at the end takes no variable away from any event. -/
theorem unions_form_semilattice :
    (∀ left right : Disablement, left.union right = right.union left) ∧
    (∀ first second third : Disablement,
      (first.union second).union third = first.union (second.union third)) ∧
    (∀ map : Disablement, map.union map = map ∧ empty.union map = map ∧ map.union empty = map) ∧
    (∀ left right : Disablement,
      AscendingMerge left.events right.events (left.union right).events ∧
      ∀ event, AscendingMerge (left.statesDisabling event) (right.statesDisabling event)
        ((left.union right).statesDisabling event)) ∧
    ∀ supervisors : List Automaton,
      (∀ grouping : Grouping (Nat × Automaton),
        (∀ index supervisor,
          (index, supervisor) ∈ grouping.items ↔ supervisors[index]? = some supervisor) →
        grouping.unite (fun entry => ofSupervisor entry.1 entry.2) = ofSupervisors supervisors) ∧
      ∀ supervisor event, (ofSupervisors supervisors).statesDisabling event ⊆
        (ofSupervisors (supervisors ++ [supervisor])).statesDisabling event := by
  refine ⟨union_comm, union_assoc, fun map => ⟨union_self map, empty_union map, union_empty map⟩,
    fun left right => ⟨events_union left right, statesDisabling_union left right⟩, ?_⟩
  intro supervisors
  constructor
  · intro grouping covers
    exact unite_eq_ofSupervisors covers
  · intro supervisor event name listed
    rw [ofSupervisors_concat]
    exact (mem_statesDisabling_union _ _ event name).mpr (.inl listed)

/-- A pump that may fill and drain at any time, and so forbids neither. -/
def pump : Automaton :=
  let running : State := ⟨"running", .marked⟩
  Automaton.build "P" running [⟨running, ⟨"fill", .controllable⟩, running⟩,
    ⟨running, ⟨"drain", .controllable⟩, running⟩]

/-- The pump first, then the tap, then the pump again. -/
def pumpTapPump : Grouping (Nat × Automaton) :=
  .both (.single (1, pump)) (.both (.both (.single (0, tap)) .nothing) (.single (1, pump)))

/-- The tap and the pump, united in the opposite order and the pump twice, give the map of their
list. Filling, which nothing forbids, keeps its entry. -/
theorem pump_and_tap_united :
    (∀ index supervisor,
      (index, supervisor) ∈ pumpTapPump.items ↔ [tap, pump][index]? = some supervisor) ∧
    pumpTapPump.unite (fun entry => ofSupervisor entry.1 entry.2) = ofSupervisors [tap, pump] ∧
    (ofSupervisors [tap, pump]).events = ["close", "drain", "drip", "fill"] ∧
    (ofSupervisors [tap, pump]).statesDisabling "fill" = [] := by
  have covers (index : Nat) (supervisor : Automaton) :
      (index, supervisor) ∈ pumpTapPump.items ↔ [tap, pump][index]? = some supervisor := by
    rcases index with _ | _ | index <;> simp [pumpTapPump, Grouping.items, eq_comm]
  obtain ⟨-, -, -, -, united⟩ := unions_form_semilattice
  exact ⟨covers, (united [tap, pump]).1 pumpTapPump covers, by decide, by decide⟩

end Disablement

end SupervisoryLadder
