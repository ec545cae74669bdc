import SupervisoryLadder.Proofs.DisablementFlags
import SupervisoryLadder.Proofs.FirstAppearance
import SupervisoryLadder.Proofs.ProgramGraph
import SupervisoryLadder.Proofs.SectionBlocks

/-!
# The rungs of the flags

Every name of a controllable event has one flag and one rung that drives it. The names are collected
from the global list and from all alphabets, so that an event which an automaton uses has its flag
even if the global list lacks it; of several events with one name the first one decides on the place
of the rung, and no other one adds a rung.

The guards of the plants read flags. They name triggers of transitions, and a trigger is always in
the alphabet of its automaton, so the rung of the flag stands in the section before.
-/

namespace SupervisoryLadder.Ladder

/-- The rung that drives the flag of a name from some variables, as it stands in a program. -/
structure FlagRung (name : String) (states : List String) where
  comment : Element
  title : Element
  contacts : List Element
  coil : Element
  isComment : comment.part = .comment
  isTitle : title.part = .networkTitle
  /-- A contact on each variable, fed by the left rail. -/
  onStates : contacts.map Element.part = states.map fun state => .contact state false [leftRailId]
  /-- The flag takes the power of exactly these contacts in every scan. -/
  drives : coil.part = .coil (Signal.join "d" name) .direct (contacts.map Element.id)

/-- The elements of the rung in order. -/
def FlagRung.elements {name : String} {states : List String} (rung : FlagRung name states) :
    List Element :=
  [rung.comment, rung.title] ++ rung.contacts ++ [rung.coil]

/-- The generated rung of a flag is such a rung, from whatever id on it is placed. -/
theorem disablementFlag_flagRung (event : Event) (states : List String) (base : Nat) :
    ∃ rung : FlagRung event.name states,
      rung.elements = Rung.place base (Rung.disablementFlag event states) := by
  let contacts : Rung := states.map fun state => .contact state false [.rail]
  have inputs : (Rung.members 2 states.length).map (Feed.locate base) =
      (Rung.placeFrom base 2 contacts).map Element.id := by
    rw [← Rung.locate_members, List.length_map]
  refine ⟨{
    comment := ⟨base, .comment⟩
    title := ⟨base + 1, .networkTitle⟩
    contacts := Rung.placeFrom base 2 contacts
    coil := ⟨base + (states.length + 2), .coil (Signal.join "d" event.name) .direct
      ((Rung.placeFrom base 2 contacts).map Element.id)⟩
    isComment := rfl
    isTitle := rfl
    onStates := by rw [Rung.parts_placeFrom, List.map_map]; rfl
    drives := rfl }, ?_⟩
  simp only [FlagRung.elements, ← inputs]
  rw [Rung.place_eq_placeFrom, Rung.disablementFlag, Rung.placeFrom_append, Rung.placeFrom_append]
  simp [Rung.header, Rung.coil, Part.map, Signal.variableName, contacts]

/-- Of the events with one name the first is kept, so the names are kept by first appearance. -/
theorem names_firstOfName (events : List Event) :
    FirstAppearances (events.map Event.name) ((firstOfName events).map Event.name) := by
  induction events with
  | nil => exact ⟨fun _ => Iff.rfl, List.Pairwise.nil⟩
  | cons event rest inductionHypothesis =>
    have others : ((firstOfName rest).filter fun other => other.name != event.name).map Event.name =
        ((firstOfName rest).map Event.name).filter fun other => !other == event.name := by
      rw [List.filter_map]
      rfl
    rw [firstOfName, List.map_cons, List.map_cons, others]
    exact (inductionHypothesis.filter _).cons

/-- The names of the controllable events of a system, with repetitions: those of the global list,
then those of the supervisors' and of the plants' alphabets. -/
def controllableNames (system : ControlSystem) : List String :=
  ((systemEvents system).filter Event.isControllable).map Event.name

/-- The body of the disablement section is one rung for each name. -/
theorem blocks_disablement (system : ControlSystem) :
    let states := (Disablement.ofSupervisors system.supervisors).statesDisabling
    Blocks (fun name elements => ∃ rung : FlagRung name (states name), rung.elements = elements)
      ((flaggedEvents system).map Event.name) (sectionBody system .disablement) := by
  intro states
  have byName : sectionRungs system .disablement = ((flaggedEvents system).map Event.name).map
      fun name => Rung.disablementFlag ⟨name, .controllable⟩ (states name) := by
    rw [List.map_map]
    rfl
  rw [sectionBody, byName]
  apply Rung.blocks_place
  intro name _ base
  exact disablementFlag_flagRung ⟨name, .controllable⟩ (states name) base

/-- Only the rungs of the plants have negated contacts, and these read the flags of commanded
events. -/
theorem sectionRungs_negated (system : ControlSystem) (place : Section) {rung : Rung}
    (member : rung ∈ sectionRungs system place) {operand : String} {inputs : List Feed}
    (negated : Part.contact operand true inputs ∈ rung) :
    place = .plants ∧ ∃ plant ∈ system.plants, ∃ transition ∈ plant.moves,
      transition.trigger.isControllable = true ∧
        operand = Signal.join "d" transition.trigger.name := by
  cases rungOf_mem member with
  | move => simp [Rung.supervisorMove, Rung.header, Rung.contact, Rung.coil] at negated
  | flag => simp [Rung.disablementFlag, Rung.header, Rung.coil] at negated
  | @plant plant transition listed moves =>
    by_cases commanded : transition.trigger.isControllable = true <;>
      simp [Rung.plantMove, Rung.header, Rung.contact, Rung.negatedContact, Rung.coil,
        commanded] at negated
    exact ⟨rfl, plant, listed, transition, moves, commanded, negated.1⟩
  | start => simp [Rung.start, Rung.header, Rung.contact, Rung.coil] at negated

/-- The same for the elements of a section. -/
theorem negated_of_mem_sectionBody (system : ControlSystem) (place : Section) {element : Element}
    (member : element ∈ sectionBody system place) {operand : String} {inputs : List Nat}
    (negated : element.part = .contact operand true inputs) :
    place = .plants ∧ ∃ plant ∈ system.plants, ∃ transition ∈ plant.moves,
      transition.trigger.isControllable = true ∧
        operand = Signal.join "d" transition.trigger.name := by
  obtain ⟨rung, listed, part, present, start, placed⟩ := Rung.mem_layout member
  rw [negated] at placed
  cases part with
  | contact reads inverted feeds =>
    obtain ⟨rfl, rfl, -⟩ := Part.contact.inj placed
    exact sectionRungs_negated system place listed present
  | _ => cases placed

/-- The trigger of a plant's controllable transition is among the names that have a flag. -/
theorem trigger_mem_controllableNames {system : ControlSystem} {plant : Automaton}
    (listed : plant ∈ system.plants) {transition : Transition} (moves : transition ∈ plant.moves)
    (controllable : transition.trigger.isControllable = true) :
    transition.trigger.name ∈ controllableNames system := by
  apply List.mem_map_of_mem
  rw [List.mem_filter]
  constructor
  · apply mem_systemEvents (plant_mem_components listed)
    exact plant.trigger_mem (Automaton.mem_moves.mp moves).1
  · exact controllable

/-- A contact that no section but the plants' has in its body stands behind the whole disablement
section: what comes before the body of the plants and what comes behind it are labels, rails and the
bodies of other sections. -/
theorem disablement_before_contact {system : ControlSystem} {front back : List Element}
    {element : Element} (split : (generate system).elements = front ++ element :: back)
    (contact : element.part.isContact = true)
    (only : ∀ place, element ∈ sectionBody system place → place = .plants) :
    element ∈ sectionBody system .plants ∧ sectionBody system .disablement <:+: front := by
  let opening := [⟨leftRailId, .leftRail⟩, sectionLabel system .supervisors] ++
    sectionBody system .supervisors ++ [sectionLabel system .disablement]
  let before := opening ++ sectionBody system .disablement ++ [sectionLabel system .plants]
  let after := sectionLabel system .procedures ::
    (sectionBody system .procedures ++ [⟨rightRailId, .rightRail⟩])
  have whole : before ++ (sectionBody system .plants ++ after) = front ++ element :: back := by
    rw [← split, generate_elements]
    simp [opening, before, after]
  have notBefore : element ∉ before := by
    intro member
    simp only [before, opening, List.mem_append, List.mem_cons, List.not_mem_nil,
      or_false] at member
    rcases member with ((((rfl | rfl) | body) | rfl) | body) | rfl
    all_goals first
      | cases contact
      | cases only _ body
  have notAfter : element ∉ after := by
    intro member
    simp only [after, List.mem_append, List.mem_cons, List.not_mem_nil, or_false] at member
    rcases member with rfl | body | rfl
    all_goals first
      | cases contact
      | cases only _ body
  constructor
  · have member : element ∈ before ++ (sectionBody system .plants ++ after) := by simp [whole]
    have behind := (List.mem_append.mp member).resolve_left notBefore
    exact (List.mem_append.mp behind).resolve_right notAfter
  · have inside : sectionBody system .disablement <:+: before :=
      List.infix_append opening _ [sectionLabel system .plants]
    exact inside.trans (parts_of_split notBefore notAfter whole).1.isInfix

/-- Every controllable event has exactly one flag that is driven, and every flag that is read has
been driven. Between the labels of the disablement section and of the plants stands one rung for
each name of a controllable event of the global list or of an alphabet, by first appearance, with
contacts on the variables that the disablement map has for the name. A negated contact, wherever it
stands in the program, reads the flag of such a name, and the rung of this flag lies before it. -/
theorem flags_driven_once (system : ControlSystem) :
    let states := (Disablement.ofSupervisors system.supervisors).statesDisabling
    (∃ names, FirstAppearances (controllableNames system) names ∧
      Blocks (fun name elements => ∃ rung : FlagRung name (states name), rung.elements = elements)
        names ((generate system).between .disablement .plants)) ∧
    ∀ front element back operand inputs, (generate system).elements = front ++ element :: back →
      element.part = .contact operand true inputs →
        ∃ name ∈ controllableNames system, operand = Signal.join "d" name ∧
          ∃ rung : FlagRung name (states name), rung.elements <:+: front := by
  intro states
  have listed : FirstAppearances (controllableNames system)
      ((flaggedEvents system).map Event.name) := names_firstOfName _
  have blocks := blocks_disablement system
  constructor
  · refine ⟨_, listed, ?_⟩
    rw [between_generate system rfl]
    exact blocks
  · intro front element back operand inputs split negated
    have reads (place : Section) (member : element ∈ sectionBody system place) :=
      negated_of_mem_sectionBody system place member negated
    have contact : element.part.isContact = true := by rw [negated]; rfl
    obtain ⟨inPlants, inFront⟩ :=
      disablement_before_contact split contact fun place member => (reads place member).1
    obtain ⟨-, plant, present, transition, moves, controllable, flag⟩ := reads .plants inPlants
    have known := trigger_mem_controllableNames present moves controllable
    obtain ⟨block, inside, rung, rfl⟩ := blocks.exists_block ((listed.complete _).mpr known)
    exact ⟨transition.trigger.name, known, flag, rung, inside.trans inFront⟩

/-- The buffer of the small factory drives the flags of both machines, which the global list does
not mention. -/
example : (generate SmallFactory.system).between .disablement .plants =
    [⟨21, .comment⟩, ⟨22, .networkTitle⟩, ⟨23, .contact "s00_full" false [0]⟩,
      ⟨24, .contact "s00_held" false [0]⟩, ⟨25, .coil "d_a1" .direct [23, 24]⟩,
      ⟨26, .comment⟩, ⟨27, .networkTitle⟩, ⟨28, .contact "s00_empty" false [0]⟩,
      ⟨29, .contact "s00_held" false [0]⟩, ⟨30, .coil "d_a2" .direct [28, 29]⟩] := by
  decide

end SupervisoryLadder.Ladder
