import SupervisoryLadder.Ladder.Generation
import SupervisoryLadder.Proofs.RungEffect

/-!
# From label to label

A program is cut at its labels. `Program.arrive` is the state in which a scan stands behind a label,
and `Program.pass` continues a scan from one label to another. For a generated program the cuts are
exactly its sections: a scan arrives at every label, it does so ready for the first rung behind it,
and the whole scan is the composition of the passages.
-/

namespace SupervisoryLadder

/-- The section behind this one. -/
def Section.next? : Section → Option Section
  | supervisors => some disablement
  | disablement => some plants
  | plants => some procedures
  | procedures => none

namespace Ladder

/-- The elements up to the label of the section, with that label. -/
def upToLabel (place : Section) : List Element → List Element
  | [] => []
  | element :: rest =>
    if element.part = .label place then [element] else element :: upToLabel place rest

/-- The elements behind the label of the section. -/
def behindLabel (place : Section) : List Element → List Element
  | [] => []
  | element :: rest => if element.part = .label place then rest else behindLabel place rest

/-- The state of a scan of the program when it has reached the label of the section. -/
def Program.arrive (program : Program) (place : Section) (values : Valuation) : Scan :=
  (Scan.start values).run (upToLabel place program.elements)

/-- Continues a scan that stands behind the label of one section to the label of another. -/
def Program.pass (program : Program) (first last : Section) (scan : Scan) : Scan :=
  scan.run (upToLabel last (behindLabel first program.elements))

/-- Elements without the label come before it. -/
theorem upToLabel_append {place : Section} {front : List Element}
    (unlabelled : ∀ element ∈ front, element.part ≠ .label place) (back : List Element) :
    upToLabel place (front ++ back) = front ++ upToLabel place back := by
  induction front with
  | nil => rfl
  | cons element rest inductionHypothesis =>
    rw [List.cons_append, upToLabel, if_neg (unlabelled element List.mem_cons_self),
      inductionHypothesis fun other member => unlabelled other (List.mem_cons_of_mem _ member),
      List.cons_append]

/-- Nothing of the elements before the label comes behind it. -/
theorem behindLabel_append {place : Section} {front : List Element}
    (unlabelled : ∀ element ∈ front, element.part ≠ .label place) (back : List Element) :
    behindLabel place (front ++ back) = behindLabel place back := by
  induction front with
  | nil => rfl
  | cons element rest inductionHypothesis =>
    rw [List.cons_append, behindLabel, if_neg (unlabelled element List.mem_cons_self),
      inductionHypothesis fun other member => unlabelled other (List.mem_cons_of_mem _ member)]

/-- The number of elements of a section, with its label. -/
def sectionSize (system : ControlSystem) (place : Section) : Nat :=
  1 + Rung.size (sectionRungs system place)

/-- The id of the label of a section. -/
def sectionStart (system : ControlSystem) (place : Section) : Nat :=
  (Section.all.takeWhile (· ≠ place)).foldl (fun start before => start + sectionSize system before)
    (leftRailId + 1)

/-- The elements of a section behind its label. -/
def sectionBody (system : ControlSystem) (place : Section) : List Element :=
  Rung.layout (sectionStart system place + 1) (sectionRungs system place)

/-- The label of a section as an element. -/
def sectionLabel (system : ControlSystem) (place : Section) : Element :=
  ⟨sectionStart system place, .label place⟩

/-- The sections follow one another without a gap in the ids. -/
theorem sectionStart_next (system : ControlSystem) (place next : Section)
    (follows : place.next? = some next) :
    sectionStart system next = sectionStart system place + sectionSize system place := by
  cases place <;> cases follows <;>
    simp [sectionStart, Section.all, List.takeWhile, Nat.add_assoc]

/-- Every section lies behind the left rail. -/
theorem rail_lt_sectionStart (system : ControlSystem) (place : Section) :
    leftRailId < sectionStart system place + 1 := by
  cases place <;> simp [sectionStart, Section.all, List.takeWhile] <;> omega

/-- A section that is laid out at its place is its label and its body. -/
theorem layout_section (system : ControlSystem) (place : Section) :
    Rung.layout (sectionStart system place) ([.label place] :: sectionRungs system place) =
      sectionLabel system place :: sectionBody system place := rfl

theorem length_section (system : ControlSystem) (place : Section) :
    (sectionLabel system place :: sectionBody system place).length = sectionSize system place := by
  rw [List.length_cons, sectionBody, Rung.length_layout, sectionSize, Nat.add_comm]

/-- The generated program is the left rail, the four sections with their labels, the right rail. -/
theorem generate_elements (system : ControlSystem) :
    (generate system).elements =
      ⟨leftRailId, .leftRail⟩ :: sectionLabel system .supervisors ::
        (sectionBody system .supervisors ++ sectionLabel system .disablement ::
          (sectionBody system .disablement ++ sectionLabel system .plants ::
            (sectionBody system .plants ++ sectionLabel system .procedures ::
              (sectionBody system .procedures ++ [⟨rightRailId, .rightRail⟩])))) := by
  have first : leftRailId + 1 = sectionStart system .supervisors := rfl
  simp only [generate, sections, Section.all, layoutSections, first, layout_section, length_section,
    ← sectionStart_next system .supervisors .disablement rfl,
    ← sectionStart_next system .disablement .plants rfl,
    ← sectionStart_next system .plants .procedures rfl]
  simp

/-- The rung of a plant's move has no label. -/
theorem plantMove_unlabelled (plant : String) (transition : Transition) (target : Section) :
    Part.label target ∉ Rung.plantMove plant transition := by
  by_cases commanded : transition.trigger.isControllable = true <;>
    simp [Rung.plantMove, Rung.header, Rung.contact, Rung.negatedContact, Rung.coil, commanded]

/-- Where a rung stands and what it is for. -/
inductive RungOf (system : ControlSystem) : Section → Rung → Prop
  | move {entry : Automaton × Nat} {pair : State × State}
      (listed : entry ∈ system.supervisors.zipIdx) (joined : pair ∈ movePairs entry.1) :
      RungOf system .supervisors
        (Rung.supervisorMove entry.2 pair.1 pair.2 (moveEvents entry.1 pair.1 pair.2))
  | flag {event : Event} (flagged : event ∈ flaggedEvents system) :
      RungOf system .disablement (Rung.disablementFlag event
        ((Disablement.ofSupervisors system.supervisors).statesDisabling event.name))
  | plant {plant : Automaton} {transition : Transition} (listed : plant ∈ system.plants)
      (moves : transition ∈ plant.moves) :
      RungOf system .plants (Rung.plantMove plant.name transition)
  | start : RungOf system .procedures (Rung.start (initialSignals system))

/-- The rungs of a section are of one kind. -/
theorem rungOf_mem {system : ControlSystem} {place : Section} {rung : Rung}
    (member : rung ∈ sectionRungs system place) : RungOf system place rung := by
  cases place with
  | supervisors =>
    simp only [sectionRungs, supervisorRungs, List.mem_flatMap, List.mem_map] at member
    obtain ⟨entry, listed, pair, joined, rfl⟩ := member
    exact .move listed joined
  | disablement =>
    simp only [sectionRungs, List.mem_map] at member
    obtain ⟨event, flagged, rfl⟩ := member
    exact .flag flagged
  | plants =>
    simp only [sectionRungs, plantRungs, orderedMoves, List.mem_flatMap, List.mem_map,
      List.mem_mergeSort] at member
    obtain ⟨plant, listed, transition, moves, rfl⟩ := member
    exact .plant listed moves
  | procedures =>
    simp only [sectionRungs, List.mem_singleton] at member
    subst member
    exact .start

/-- Every such rung stands in its section. -/
theorem RungOf.mem {system : ControlSystem} {place : Section} {rung : Rung}
    (rungOf : RungOf system place rung) : rung ∈ sectionRungs system place := by
  cases rungOf with
  | move listed joined =>
    exact List.mem_flatMap.mpr ⟨_, listed, List.mem_map_of_mem joined⟩
  | flag flagged => exact List.mem_map_of_mem flagged
  | plant listed moves =>
    exact List.mem_flatMap.mpr ⟨_, listed, List.mem_map_of_mem (List.mem_mergeSort.mpr moves)⟩
  | start => exact List.mem_singleton_self _

/-- Labels stand only at the head of a section, never in a rung. -/
theorem sectionRungs_unlabelled (system : ControlSystem) (place target : Section) :
    ∀ rung ∈ sectionRungs system place, Part.label target ∉ rung := by
  intro rung member
  cases rungOf_mem member with
  | move => simp [Rung.supervisorMove, Rung.header, Rung.contact, Rung.coil]
  | flag => simp [Rung.disablementFlag, Rung.header, Rung.coil]
  | plant => exact plantMove_unlabelled _ _ target
  | start => simp [Rung.start, Rung.header, Rung.contact, Rung.coil]

/-- The body of a section has no label. -/
theorem sectionBody_unlabelled (system : ControlSystem) (place target : Section) :
    ∀ element ∈ sectionBody system place, element.part ≠ .label target :=
  fun _ member => Rung.unlabelled_layout (sectionRungs_unlabelled system place target) member

/-- Whoever looks for a label passes over the body of a section. -/
theorem upToLabel_body (system : ControlSystem) (place target : Section) (back : List Element) :
    upToLabel target (sectionBody system place ++ back) =
      sectionBody system place ++ upToLabel target back :=
  upToLabel_append (sectionBody_unlabelled system place target) back

theorem behindLabel_body (system : ControlSystem) (place target : Section) (back : List Element) :
    behindLabel target (sectionBody system place ++ back) = behindLabel target back :=
  behindLabel_append (sectionBody_unlabelled system place target) back

/-- The passage of a section runs over its body and the label behind it. -/
theorem pass_next (system : ControlSystem) {first last : Section}
    (follows : first.next? = some last) (scan : Scan) :
    (generate system).pass first last scan =
      (scan.run (sectionBody system first)).step (sectionLabel system last) := by
  rw [Program.pass, generate_elements]
  cases first <;> cases follows <;>
    simp [upToLabel, behindLabel, upToLabel_body, behindLabel_body, sectionLabel, Scan.run_append]

/-- A scan arrives at a label through the passage of the section before it. -/
theorem arrive_next (system : ControlSystem) {first last : Section}
    (follows : first.next? = some last) (values : Valuation) :
    (generate system).arrive last values =
      (generate system).pass first last ((generate system).arrive first values) := by
  rw [Program.pass, Program.arrive, Program.arrive, ← Scan.run_append, generate_elements]
  cases first <;> cases follows <;>
    simp [upToLabel, behindLabel, upToLabel_body, behindLabel_body, sectionLabel]

/-- A scan arrives at the first label with nothing but the left rail under power. -/
theorem arrive_supervisors (system : ControlSystem) (values : Valuation) :
    ((generate system).arrive .supervisors values).values = values ∧
      ((generate system).arrive .supervisors values).ReadyAt
        (sectionStart system .supervisors + 1) := by
  have opened : (generate system).arrive .supervisors values = Scan.opened values := by
    rw [Program.arrive, generate_elements]
    simp [upToLabel, sectionLabel, Scan.step_of_going, Scan.reach, Scan.start, Scan.energize,
      Scan.opened]
  rw [opened]
  exact ⟨rfl, Scan.opened_readyAt values (rail_lt_sectionStart system .supervisors)⟩

/-- The rest of a scan behind the last label is the body of the procedures; the right rail has no
effect. -/
theorem run_generate (system : ControlSystem) (values : Valuation) :
    (Scan.start values).run (generate system).elements =
      ((generate system).arrive .procedures values).run (sectionBody system .procedures) := by
  have last (scan : Scan) : scan.step ⟨rightRailId, .rightRail⟩ = scan := by
    unfold Scan.step
    split
    · rfl
    · rw [if_neg (by simp)]
  rw [Program.arrive, ← Scan.run_append, generate_elements]
  simp [upToLabel, upToLabel_body, sectionLabel, Scan.run_append, last]

/-- The label behind a section ends a jump to it and otherwise does nothing, so the passage is the
run over the body with no jump left. -/
theorem pass_eq_land {system : ControlSystem} {first last : Section}
    (follows : first.next? = some last) {scan : Scan}
    (aimed : (scan.run (sectionBody system first)).seeking = none ∨
      (scan.run (sectionBody system first)).seeking = some last) :
    (generate system).pass first last scan = (scan.run (sectionBody system first)).land := by
  rw [pass_next system follows]
  rcases aimed with going | jumping
  · rw [Scan.step_of_going going, Scan.land_of_going going]
    rfl
  · simp [Scan.step, jumping, sectionLabel, Scan.land]

/-- Behind a section the scan is ready for the next one. -/
theorem pass_ready {system : ControlSystem} {first last : Section}
    (follows : first.next? = some last) {scan : Scan}
    (ready : scan.ReadyAt (sectionStart system first + 1))
    (aimed : (scan.run (sectionBody system first)).seeking = none ∨
      (scan.run (sectionBody system first)).seeking = some last) :
    ((generate system).pass first last scan).ReadyAt (sectionStart system last + 1) := by
  rw [pass_eq_land follows aimed]
  have next := sectionStart_next system first last follows
  have size : 1 ≤ sectionSize system first := Nat.le_add_right _ _
  apply ready.land_run
  · omega
  · intro element member
    have bounds := Rung.id_layout member
    rw [sectionSize] at next
    omega

namespace SmallFactory

/-- A machine that is started by command and reports when it has finished. -/
def machine (name start finish : String) : Automaton :=
  Automaton.build name ⟨"idle", .marked⟩
    [⟨⟨"idle", .marked⟩, ⟨start, .controllable⟩, ⟨"busy", .unmarked⟩⟩,
      ⟨⟨"busy", .unmarked⟩, ⟨finish, .uncontrollable⟩, ⟨"idle", .marked⟩⟩]

/-- The buffer between two machines holds one piece: the first machine may start while the buffer is
empty, the second one while it is full. -/
def buffer : Automaton :=
  Automaton.build "B" ⟨"empty", .marked⟩
    [⟨⟨"empty", .marked⟩, ⟨"a1", .controllable⟩, ⟨"held", .unmarked⟩⟩,
      ⟨⟨"held", .unmarked⟩, ⟨"b1", .uncontrollable⟩, ⟨"full", .unmarked⟩⟩,
      ⟨⟨"full", .unmarked⟩, ⟨"a2", .controllable⟩, ⟨"empty", .marked⟩⟩]

/-- Two machines with the buffer between them. -/
def system : ControlSystem := ⟨[buffer], [machine "M1" "a1" "b1", machine "M2" "a2" "b2"], []⟩

/-- The buffer is full and both machines are idle. The flag of the last scan is out of date. -/
def loaded : Valuation := fun name => name ∈ ["s00_full", "M1_idle", "M2_idle", "d_a2"]

end SmallFactory

end Ladder

end SupervisoryLadder
