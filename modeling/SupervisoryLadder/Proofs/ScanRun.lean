import SupervisoryLadder.Ladder.Rung
import SupervisoryLadder.Ladder.Scan

/-!
# Runs of a scan over elements

A run over a list of elements is the composition of its steps. Three facts carry everything that is
said about whole sections: a run is split where the list is split, a jump passes over elements
without effect up to the label it seeks, and only the element with an id can change the power of
that id. The last one is why a scan that is about to reach an id has no power at that id or behind
it, which is the state `ReadyAt` in which every rung is entered.
-/

namespace SupervisoryLadder.Ladder

namespace Scan

@[simp]
theorem run_nil (scan : Scan) : scan.run [] = scan := rfl

@[simp]
theorem run_cons (scan : Scan) (element : Element) (rest : List Element) :
    scan.run (element :: rest) = (scan.step element).run rest := rfl

/-- A run over two lists is a run over the second from where the first ends. -/
theorem run_append (scan : Scan) (front back : List Element) :
    scan.run (front ++ back) = (scan.run front).run back := List.foldl_append

/-- Outside of a jump an element has its effect. -/
theorem step_of_going {scan : Scan} (going : scan.seeking = none) (element : Element) :
    scan.step element = scan.reach element := by
  simp only [step, going]

/-- A jump that is under way passes over everything that is not the label it seeks. -/
theorem run_of_seeking {scan : Scan} {target : Section} (jumping : scan.seeking = some target)
    {elements : List Element} (unlabelled : ∀ element ∈ elements, element.part ≠ .label target) :
    scan.run elements = scan := by
  induction elements with
  | nil => rfl
  | cons element rest inductionHypothesis =>
    have passed : scan.step element = scan := by
      simp [step, jumping, unlabelled element List.mem_cons_self]
    rw [run_cons, passed]
    exact inductionHypothesis fun other member => unlabelled other (List.mem_cons_of_mem _ member)

/-- An element gives power to its own id only. -/
theorem reach_power {scan : Scan} {element : Element} {id : Nat} (different : element.id ≠ id) :
    (scan.reach element).power id = scan.power id := by
  unfold reach
  split <;> grind [energize, write]

/-- Elements with other ids leave the power of an id alone, whether they are reached or passed. -/
theorem run_power {scan : Scan} {elements : List Element} {id : Nat}
    (outside : ∀ element ∈ elements, element.id ≠ id) :
    (scan.run elements).power id = scan.power id := by
  induction elements generalizing scan with
  | nil => rfl
  | cons element rest inductionHypothesis =>
    have stepped : (scan.step element).power id = scan.power id := by
      unfold step
      split
      · exact reach_power (outside element List.mem_cons_self)
      · split <;> rfl
    rw [run_cons, inductionHypothesis fun other member =>
      outside other (List.mem_cons_of_mem _ member), stepped]

/-- The state in which a scan reaches the element with this id: the left rail has power, no jump is
under way, and nothing from the id on has power yet. -/
structure ReadyAt (scan : Scan) (id : Nat) : Prop where
  rail : scan.power leftRailId = true
  going : scan.seeking = none
  ahead : ∀ other, id ≤ other → scan.power other = false

/-- The left rail lies behind every scan that is ready. -/
theorem ReadyAt.behind_rail {scan : Scan} {id : Nat} (ready : scan.ReadyAt id) :
    leftRailId < id := by
  rcases Nat.lt_or_ge leftRailId id with behind | ahead
  · exact behind
  · have unpowered := ready.ahead leftRailId ahead
    rw [ready.rail] at unpowered
    exact Bool.noConfusion unpowered

/-- The state of a scan behind the left rail. -/
def opened (values : Valuation) : Scan := (start values).energize leftRailId true

/-- Behind the left rail a scan is ready for whatever comes next. -/
theorem opened_readyAt (values : Valuation) {id : Nat} (behind : leftRailId < id) :
    (opened values).ReadyAt id where
  rail := by simp [opened, energize]
  going := rfl
  ahead := by
    intro other beyond
    have different : other ≠ leftRailId := by omega
    simp [opened, energize, different, start]

/-- The scan with no jump under way. -/
def land (scan : Scan) : Scan := { scan with seeking := none }

/-- A scan that goes on has nowhere to land. -/
theorem land_of_going {scan : Scan} (going : scan.seeking = none) : scan.land = scan := by
  rw [land, ← going]

/-- A run over elements with ids from one bound to another is ready at the upper bound, once a jump
that it may have started has ended. -/
theorem ReadyAt.land_run {scan : Scan} {id next : Nat} (ready : scan.ReadyAt id)
    (onward : id ≤ next) {elements : List Element}
    (placed : ∀ element ∈ elements, id ≤ element.id ∧ element.id < next) :
    (scan.run elements).land.ReadyAt next where
  rail := by
    have behind := ready.behind_rail
    show (scan.run elements).power leftRailId = true
    rw [run_power fun element member same => by have := (placed element member).1; omega]
    exact ready.rail
  going := rfl
  ahead := by
    intro other beyond
    show (scan.run elements).power other = false
    rw [run_power fun element member same => by have := (placed element member).2; omega]
    exact ready.ahead other (Nat.le_trans onward beyond)

end Scan

namespace Rung

/-- The number of members of all rungs together. -/
def size : List Rung → Nat
  | [] => 0
  | rung :: rest => rung.length + size rest

@[simp]
theorem size_nil : size [] = 0 := rfl

@[simp]
theorem size_cons (rung : Rung) (rest : List Rung) :
    size (rung :: rest) = rung.length + size rest := rfl

/-- The members of a rung get the ids from its base on. -/
theorem id_place {base : Nat} {rung : Rung} {element : Element}
    (member : element ∈ place base rung) :
    base ≤ element.id ∧ element.id < base + rung.length := by
  obtain ⟨entry, indexed, rfl⟩ := List.mem_map.mp member
  exact ⟨List.le_snd_of_mem_zipIdx indexed, by
    simpa [Nat.add_comm] using List.snd_lt_of_mem_zipIdx indexed⟩

/-- Rungs that are laid out get the ids from the base on. -/
theorem id_layout {base : Nat} {rungs : List Rung} {element : Element}
    (member : element ∈ layout base rungs) :
    base ≤ element.id ∧ element.id < base + size rungs := by
  induction rungs generalizing base with
  | nil => cases member
  | cons rung rest inductionHypothesis =>
    rw [size_cons]
    rcases List.mem_append.mp member with first | later
    · have bounds := id_place first
      omega
    · have bounds := inductionHypothesis later
      omega

@[simp]
theorem length_place (base : Nat) (rung : Rung) : (place base rung).length = rung.length := by
  simp [place]

/-- The layout of rungs has as many elements as the rungs have members. -/
theorem length_layout (base : Nat) (rungs : List Rung) :
    (layout base rungs).length = size rungs := by
  induction rungs generalizing base with
  | nil => rfl
  | cons rung rest inductionHypothesis =>
    rw [layout, List.length_append, length_place, inductionHypothesis, size_cons]

/-- An element of laid out rungs is a member of one of them, with its references as ids. -/
theorem mem_layout {base : Nat} {rungs : List Rung} {element : Element}
    (member : element ∈ layout base rungs) :
    ∃ rung ∈ rungs, ∃ part ∈ rung, ∃ start, element.part = part.map (Feed.locate start) := by
  induction rungs generalizing base with
  | nil => cases member
  | cons rung rest inductionHypothesis =>
    rcases List.mem_append.mp member with first | later
    · obtain ⟨⟨part, id⟩, indexed, rfl⟩ := List.mem_map.mp first
      exact ⟨rung, List.mem_cons_self, part, List.fst_mem_of_mem_zipIdx indexed, base, rfl⟩
    · obtain ⟨other, present, found⟩ := inductionHypothesis later
      exact ⟨other, List.mem_cons_of_mem _ present, found⟩

/-- Rungs without labels have none when they are laid out. -/
theorem unlabelled_layout {base : Nat} {rungs : List Rung} {target : Section}
    (unlabelled : ∀ rung ∈ rungs, Part.label target ∉ rung)
    {element : Element} (member : element ∈ layout base rungs) : element.part ≠ .label target := by
  obtain ⟨rung, listed, part, present, start, placed⟩ := mem_layout member
  rw [placed]
  intro same
  cases part with
  | label place =>
    cases same
    exact unlabelled rung listed present
  | _ => cases same

end Rung

end SupervisoryLadder.Ladder
