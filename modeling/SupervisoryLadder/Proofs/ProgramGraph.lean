import Mathlib.Data.List.Nodup
import SupervisoryLadder.Proofs.Wiring

/-!
# The graph of a generated program

A generated program is a list of elements between two rails. Its ids are consecutive up to the right
rail, which has a fixed id of its own; connections point backwards inside a rung; the four labels
stand in order; and all jumps lead from the plants on to the procedures. Ids tell elements apart
exactly as long as the consecutive ids stay below that of the right rail.

`Program.walk` follows a scan without knowing that jumps lead onwards: it looks for the label of a
jump in the whole program. For a program of this shape the elements that a scan visits are a sublist
of the program, so none is visited twice, and the walk ends as the scan does.
-/

namespace SupervisoryLadder.Ladder

/-! ## Walks -/

/-- A scan in the middle of a program, with the elements that it still has before it. -/
structure Walk where
  rest : List Element
  scan : Scan

/-- Reaches the next element. A jump with power continues behind the label of its section, wherever
that stands in the program. -/
def Program.advance (program : Program) : Walk → Option (Element × Walk)
  | ⟨[], _⟩ => none
  | ⟨element :: rest, scan⟩ =>
    let reached := scan.reach element
    match reached.seeking with
    | none => some (element, ⟨rest, reached⟩)
    | some target => some (element, ⟨behindLabel target program.elements, reached.land⟩)

/-- The elements that a scan visits in so many steps at most, and its state behind them. -/
def Program.walk (program : Program) : Nat → Walk → List Element × Scan
  | 0, walk => ([], walk.scan)
  | steps + 1, walk =>
    match program.advance walk with
    | none => ([], walk.scan)
    | some (element, next) =>
      (element :: (program.walk steps next).1, (program.walk steps next).2)

/-- Only a jump makes the scan look for a label. -/
theorem Scan.reach_seeking {scan : Scan} (going : scan.seeking = none) (element : Element) :
    (scan.reach element).seeking = none ∨ ∃ target inputs, element.part = .jump target inputs ∧
      (scan.reach element).seeking = some target := by
  unfold reach
  split <;> grind [energize, write]

/-- What stands behind a label is the end of the list. -/
theorem behindLabel_suffix (place : Section) (elements : List Element) :
    behindLabel place elements <:+ elements := by
  induction elements with
  | nil => exact List.suffix_refl _
  | cons element rest inductionHypothesis =>
    unfold behindLabel
    split
    · exact List.suffix_cons element rest
    · exact inductionHypothesis.trans (List.suffix_cons element rest)

/-- A jump that is under way lands behind the label it seeks. -/
theorem Scan.run_to_label {scan : Scan} {target : Section} (jumping : scan.seeking = some target)
    {elements : List Element} (labelled : ∃ element ∈ elements, element.part = .label target) :
    scan.run elements = scan.land.run (behindLabel target elements) := by
  induction elements with
  | nil => simp at labelled
  | cons element rest inductionHypothesis =>
    unfold behindLabel
    by_cases found : element.part = .label target
    · rw [if_pos found, run_cons]
      simp [step, jumping, found, land]
    · have passed : scan.step element = scan := by simp [step, jumping, found]
      rw [if_neg found, run_cons, passed]
      refine inductionHypothesis ?_
      obtain ⟨label, member, labels⟩ := labelled
      rcases List.mem_cons.mp member with rfl | later
      · exact absurd labels found
      · exact ⟨label, later, labels⟩

/-! ## Well-formed programs -/

/-- The section that a label opens. -/
def Element.label? (element : Element) : Option Section :=
  match element.part with
  | .label place => some place
  | _ => none

theorem Element.label?_eq_some {element : Element} {place : Section} :
    element.label? = some place ↔ element.part = .label place := by
  unfold label?
  split <;> simp_all

/-- The shape of a generated program. -/
structure WellFormed (program : Program) : Prop where
  /-- The rails stand at the ends and nowhere else. -/
  rails : ∃ inner, program.elements = ⟨leftRailId, .leftRail⟩ :: inner ++
    [⟨rightRailId, .rightRail⟩] ∧ ∀ element ∈ inner, element.part ≠ .leftRail ∧
      element.part ≠ .rightRail
  /-- The ids are consecutive up to the right rail. -/
  ids : program.elements.map Element.id =
    List.range (program.elements.length - 1) ++ [rightRailId]
  /-- Connections point backwards, to the left rail or to contacts of the same rung. -/
  wired : Wired [] program.elements
  /-- Every label stands once, in order. -/
  labels : program.elements.filterMap Element.label? = Section.all
  /-- Jumps stand between the last two labels and aim at the last one. -/
  jumps : ∃ before plants body procedures after,
    program.elements = before ++ plants :: (body ++ procedures :: after) ∧
      plants.part = .label .plants ∧ procedures.part = .label .procedures ∧
      (∀ element ∈ before ++ after, ∀ target inputs, element.part ≠ .jump target inputs) ∧
      ∀ element ∈ body, ∀ target inputs, element.part = .jump target inputs → target = .procedures

/-- Where a list is cut at a member that is in neither of its outer parts, the outer parts are on
either side of the cut. -/
theorem parts_of_split {α : Type} {before middle after front back : List α} {item : α}
    (notBefore : item ∉ before) (notAfter : item ∉ after)
    (split : before ++ (middle ++ after) = front ++ item :: back) :
    before <+: front ∧ after <:+ back := by
  constructor
  · rcases List.append_eq_append_iff.mp split with ⟨more, rfl, -⟩ | ⟨more, rfl, tail⟩
    · exact List.prefix_append before more
    · cases more with
      | nil => simp
      | cons head rest =>
        obtain ⟨rfl, -⟩ := List.cons.inj tail
        simp at notBefore
  · rw [← List.append_assoc] at split
    rcases List.append_eq_append_iff.mp split with ⟨more, -, rfl⟩ | ⟨more, -, tail⟩
    · simp at notAfter
    · cases more with
      | nil =>
        rw [List.nil_append] at tail
        simp [← tail] at notAfter
      | cons head rest =>
        obtain ⟨-, rfl⟩ := List.cons.inj tail
        exact List.suffix_append rest after

namespace WellFormed

variable {program : Program} (wellFormed : WellFormed program)
include wellFormed

/-- Behind a jump stands the label that it aims at, and before it there is none. -/
theorem label_behind_jump {front rest : List Element} {element : Element}
    (split : program.elements = front ++ element :: rest) {target : Section} {inputs : List Nat}
    (jump : element.part = .jump target inputs) :
    (∃ label ∈ rest, label.part = .label target) ∧
      ∀ other ∈ front, other.part ≠ .label target := by
  obtain ⟨before, plants, body, procedures, after, shape, isPlants, isProcedures, outside,
    inside⟩ := wellFormed.jumps
  have notBefore : element ∉ before ++ [plants] := by
    intro member
    rcases List.mem_append.mp member with early | here
    · exact outside element (List.mem_append_left _ early) target inputs jump
    · rw [List.mem_singleton] at here
      rw [← here, jump] at isPlants
      cases isPlants
  have notAfter : element ∉ procedures :: after := by
    intro member
    rcases List.mem_cons.mp member with here | late
    · rw [← here, jump] at isProcedures
      cases isProcedures
    · exact outside element (List.mem_append_right _ late) target inputs jump
  have cut : before ++ [plants] ++ (body ++ procedures :: after) = front ++ element :: rest := by
    rw [← split, shape]
    simp
  obtain ⟨-, behind⟩ := parts_of_split notBefore notAfter cut
  have present : element ∈ body := by
    have member : element ∈ before ++ [plants] ++ (body ++ procedures :: after) := by simp [cut]
    rcases List.mem_append.mp member with early | late
    · exact absurd early notBefore
    · exact (List.mem_append.mp late).resolve_right notAfter
  obtain rfl := inside element present target inputs jump
  have listed : procedures ∈ rest := behind.subset List.mem_cons_self
  refine ⟨⟨procedures, listed, isProcedures⟩, fun other member same => ?_⟩
  -- A second label before the jump would make the section appear twice among the labels.
  have labels := wellFormed.labels
  rw [split, List.filterMap_append, List.filterMap_cons, Element.label?, jump] at labels
  have distinct : Section.all.Nodup := by decide
  rw [← labels, List.nodup_append] at distinct
  exact distinct.2.2 .procedures
    (List.mem_filterMap.mpr ⟨other, member, Element.label?_eq_some.mpr same⟩) .procedures
    (List.mem_filterMap.mpr ⟨procedures, listed, Element.label?_eq_some.mpr isProcedures⟩) rfl

/-- One step of a walk: it goes on within what was before it, no jump is left under way, and the run
over the rest is the same from there. -/
theorem advance_onwards {element : Element} {rest : List Element} {scan : Scan}
    (inside : element :: rest <:+ program.elements) (going : scan.seeking = none) :
    ∃ next, program.advance ⟨element :: rest, scan⟩ = some (element, next) ∧ next.rest <:+ rest ∧
      next.scan.seeking = none ∧ scan.run (element :: rest) = next.scan.run next.rest := by
  obtain ⟨front, split⟩ := inside
  rw [Scan.run_cons, Scan.step_of_going going]
  rcases Scan.reach_seeking going element with still | ⟨target, inputs, jump, jumping⟩
  · exact ⟨⟨rest, scan.reach element⟩, by simp [Program.advance, still], List.suffix_refl _, still,
      rfl⟩
  · obtain ⟨labelled, unlabelled⟩ := wellFormed.label_behind_jump split.symm jump
    have found : behindLabel target program.elements = behindLabel target rest := by
      rw [← split, behindLabel_append unlabelled, behindLabel, if_neg (by simp [jump])]
    exact ⟨⟨behindLabel target program.elements, (scan.reach element).land⟩,
      by simp [Program.advance, jumping], found ▸ behindLabel_suffix target rest, rfl,
      found ▸ Scan.run_to_label jumping labelled⟩

/-- However far a walk goes, what it visits is a sublist of what it has before it. -/
theorem walk_sublist (steps : Nat) {walk : Walk} (inside : walk.rest <:+ program.elements)
    (going : walk.scan.seeking = none) : (program.walk steps walk).1.Sublist walk.rest := by
  induction steps generalizing walk with
  | zero => exact List.nil_sublist _
  | succ steps inductionHypothesis =>
    obtain ⟨_ | ⟨element, rest⟩, scan⟩ := walk
    · exact List.nil_sublist _
    · obtain ⟨next, advanced, within, stillGoing, -⟩ := wellFormed.advance_onwards inside going
      rw [Program.walk, advanced]
      have later := inductionHypothesis
        (within.trans ((List.suffix_cons element rest).trans inside)) stillGoing
      exact (later.trans within.sublist).cons_cons element

/-- A walk that is long enough ends as the run does. -/
theorem walk_eq_run (steps : Nat) {walk : Walk} (inside : walk.rest <:+ program.elements)
    (going : walk.scan.seeking = none) (enough : walk.rest.length ≤ steps) :
    (program.walk steps walk).2 = walk.scan.run walk.rest := by
  induction steps generalizing walk with
  | zero =>
    rw [List.eq_nil_of_length_eq_zero (Nat.le_zero.mp enough)]
    rfl
  | succ steps inductionHypothesis =>
    obtain ⟨_ | ⟨element, rest⟩, scan⟩ := walk
    · rfl
    · obtain ⟨next, advanced, within, stillGoing, same⟩ := wellFormed.advance_onwards inside going
      have shorter := within.length_le
      rw [List.length_cons] at enough
      rw [Program.walk, advanced, same]
      exact inductionHypothesis (within.trans ((List.suffix_cons element rest).trans inside))
        stillGoing (by omega)

/-- The ids ascend exactly when the consecutive ones stay below that of the right rail. -/
theorem ids_ascending_iff :
    (program.elements.map Element.id).Pairwise (· < ·) ↔
      program.elements.length - 1 ≤ rightRailId := by
  rw [wellFormed.ids, List.pairwise_append]
  constructor
  · rintro ⟨-, -, below⟩
    by_contra beyond
    have last := below rightRailId (List.mem_range.mpr (by omega)) rightRailId (by simp)
    omega
  · intro bound
    refine ⟨List.pairwise_lt_range, List.pairwise_singleton _ _, ?_⟩
    intro id member other last
    rw [List.mem_range] at member
    rw [List.mem_singleton] at last
    omega

/-- The element of an id is found exactly when the consecutive ids stay below that of the right
rail. Beyond that the id of the right rail leads to an element that is not the rail. -/
theorem element?_exact_iff :
    (∀ id element, program.element? id = some element ↔
      element ∈ program.elements ∧ element.id = id) ↔
        program.elements.length - 1 ≤ rightRailId := by
  constructor
  · intro exact
    by_contra beyond
    obtain ⟨inner, shape, unrailed⟩ := wellFormed.rails
    have found : program.element? rightRailId = some ⟨rightRailId, .rightRail⟩ :=
      (exact _ _).mpr ⟨by simp [shape], rfl⟩
    have listed : rightRailId ∈ (⟨leftRailId, .leftRail⟩ :: inner).map Element.id := by
      have ids := wellFormed.ids
      rw [shape, List.map_append] at ids
      have front := List.append_inj_left' ids rfl
      rw [front, List.mem_range]
      rw [shape] at beyond
      simp at beyond ⊢
      omega
    obtain ⟨element, member, sameId⟩ := List.mem_map.mp listed
    have twice := (exact rightRailId element).mpr
      ⟨by rw [shape]; exact List.mem_append_left _ member, sameId⟩
    rw [found] at twice
    obtain rfl := Option.some.inj twice
    rcases List.mem_cons.mp member with isLeft | isInner
    · cases isLeft
    · exact (unrailed _ isInner).2 rfl
  · intro bound id element
    have distinct : (program.elements.map Element.id).Nodup :=
      (wellFormed.ids_ascending_iff.mpr bound).imp fun less => Nat.ne_of_lt less
    constructor
    · intro found
      exact ⟨List.mem_of_find?_eq_some found, by simpa using List.find?_some found⟩
    · rintro ⟨member, rfl⟩
      cases found : program.element? element.id with
      | none => simpa using List.find?_eq_none.mp found element member
      | some other =>
        have sameId : other.id = element.id := by simpa using List.find?_some found
        rw [List.inj_on_of_nodup_map distinct (List.mem_of_find?_eq_some found) member sameId]

end WellFormed

/-! ## Generated programs -/

section Bodies

variable (system : ControlSystem) (place : Section)

/-- A section with its label is wired, whatever it stands behind. -/
theorem section_wired {front rest : List Element}
    (wired : Wired (front ++ [sectionLabel system place] ++ sectionBody system place) rest) :
    Wired front (sectionLabel system place :: (sectionBody system place ++ rest)) := by
  have body := Rung.layout_wired (fun _ member => sectionRungs_layered system place member)
    (rail_lt_sectionStart system place) (front ++ [sectionLabel system place])
  exact wired_cons rfl (wired_append body wired)

/-- A section with its label has consecutive ids from its start on. -/
theorem ids_section :
    (sectionLabel system place :: sectionBody system place).map Element.id =
      List.range' (sectionStart system place) (sectionSize system place) := by
  rw [List.map_cons, sectionBody, Rung.ids_layout, sectionSize, Nat.add_comm 1, List.range'_succ]
  rfl

theorem sectionBody_unrailed :
    ∀ element ∈ sectionBody system place, element.part ≠ .leftRail ∧ element.part ≠ .rightRail := by
  intro element member
  obtain ⟨rung, listed, part, present, start, placed⟩ := Rung.mem_layout member
  obtain ⟨contacts, actions, layered⟩ := sectionRungs_layered system place listed
  have unrailed := layered.unrailed present
  rw [placed]
  cases part <;> simp_all [Part.map]

theorem filterMap_sectionBody : (sectionBody system place).filterMap Element.label? = [] := by
  refine List.filterMap_eq_nil_iff.mpr fun element member => ?_
  refine Option.eq_none_iff_forall_ne_some.mpr fun target labels => ?_
  exact sectionBody_unlabelled system place target element member
    (Element.label?_eq_some.mp labels)

theorem jump_of_mem_sectionBody {element : Element} (member : element ∈ sectionBody system place)
    {target : Section} {inputs : List Nat} (jump : element.part = .jump target inputs) :
    place = .plants ∧ target = .procedures := by
  obtain ⟨rung, listed, part, present, start, placed⟩ := Rung.mem_layout member
  rw [jump] at placed
  cases part with
  | jump aim feeds =>
    obtain ⟨rfl, -⟩ := Part.jump.inj placed
    exact sectionRungs_jump system place listed present
  | _ => cases placed

end Bodies

/-- The ids of a generated program. -/
theorem ids_generate (system : ControlSystem) :
    (generate system).elements.map Element.id =
      List.range ((generate system).elements.length - 1) ++ [rightRailId] := by
  have ids : (generate system).elements.map Element.id =
      List.range (sectionSize system .supervisors + sectionSize system .disablement +
        sectionSize system .plants + sectionSize system .procedures + 1) ++ [rightRailId] := by
    have first : sectionStart system .supervisors = 1 := rfl
    have second := sectionStart_next system .supervisors .disablement rfl
    have third := sectionStart_next system .disablement .plants rfl
    have fourth := sectionStart_next system .plants .procedures rfl
    have whole (place : Section) (rest : List Element) :
        (sectionLabel system place :: (sectionBody system place ++ rest)).map Element.id =
          List.range' (sectionStart system place) (sectionSize system place) ++
            rest.map Element.id := by
      rw [← ids_section, ← List.map_append, List.cons_append]
    have joined (start size next : Nat) (rest : List Nat) :
        List.range' start size ++ (List.range' (start + size) next ++ rest) =
          List.range' start (size + next) ++ rest := by
      rw [← List.append_assoc, List.range'_append_1]
    rw [generate_elements, List.map_cons, whole, whole, whole, whole, fourth, third, second, first,
      List.range_eq_range', List.range'_succ]
    simp only [joined, Nat.add_assoc]
    rfl
  have length := congrArg List.length ids
  simp only [List.length_map, List.length_append, List.length_range,
    List.length_singleton] at length
  rw [ids, length]
  rfl

theorem generate_wellFormed (system : ControlSystem) : WellFormed (generate system) where
  rails := by
    refine ⟨sectionLabel system .supervisors :: (sectionBody system .supervisors ++
      sectionLabel system .disablement :: (sectionBody system .disablement ++
        sectionLabel system .plants :: (sectionBody system .plants ++
          sectionLabel system .procedures :: sectionBody system .procedures))), ?_, ?_⟩
    · rw [generate_elements]
      simp
    · intro element member
      have labels (place : Section) : (sectionLabel system place).part ≠ .leftRail ∧
          (sectionLabel system place).part ≠ .rightRail := by simp [sectionLabel]
      simp only [List.mem_cons, List.mem_append] at member
      rcases member with rfl | member | rfl | member | rfl | member | rfl | member
      all_goals first
        | exact labels _
        | exact sectionBody_unrailed system _ element member
  ids := ids_generate system
  wired := by
    rw [generate_elements]
    refine wired_cons rfl ?_
    iterate 4 refine section_wired system _ ?_
    exact wired_cons rfl (wired_nil _)
  labels := by
    rw [generate_elements]
    simp [List.filterMap_cons, List.filterMap_append, filterMap_sectionBody, Element.label?,
      sectionLabel, Section.all]
  jumps := by
    refine ⟨⟨leftRailId, .leftRail⟩ :: sectionLabel system .supervisors ::
      (sectionBody system .supervisors ++ sectionLabel system .disablement ::
        sectionBody system .disablement), sectionLabel system .plants, sectionBody system .plants,
      sectionLabel system .procedures,
      sectionBody system .procedures ++ [⟨rightRailId, .rightRail⟩], ?_, rfl, rfl, ?_, ?_⟩
    · rw [generate_elements]
      simp
    · intro element member target inputs jump
      simp only [List.mem_cons, List.mem_append, List.not_mem_nil, or_false] at member
      rcases member with (rfl | rfl | member | rfl | member) | (member | rfl)
      all_goals first
        | cases jump
        | cases (jump_of_mem_sectionBody system _ member jump).1
    · exact fun element member target inputs jump =>
        (jump_of_mem_sectionBody system .plants member jump).2

/-- The program of a control system is a graph of this shape. A walk that looks for labels in the
whole program visits a sublist of the elements and ends as the scan does, so no element is visited
twice. The ids ascend, and lead back to their elements, exactly when the consecutive ones stay below
that of the right rail; they fit a word of 64 bits for every program that fits into memory. -/
theorem generate_graph (system : ControlSystem) :
    let program := generate system
    let beginning (values : Valuation) : Walk := ⟨program.elements, Scan.start values⟩
    WellFormed program ∧
      (∀ values steps, (program.walk steps (beginning values)).1.Sublist program.elements) ∧
      (∀ values, (program.walk program.elements.length (beginning values)).2.values =
        program.scan values) ∧
      ((program.elements.map Element.id).Pairwise (· < ·) ↔
        program.elements.length - 1 ≤ rightRailId) ∧
      ((∀ id element, program.element? id = some element ↔
        element ∈ program.elements ∧ element.id = id) ↔
          program.elements.length - 1 ≤ rightRailId) ∧
      (program.elements.length < Nat.pow 2 63 →
        ∀ element ∈ program.elements, element.id < UInt64.size) := by
  intro program beginning
  have wellFormed : WellFormed program := generate_wellFormed system
  refine ⟨wellFormed, ?_, ?_, wellFormed.ids_ascending_iff, wellFormed.element?_exact_iff, ?_⟩
  · exact fun values steps => wellFormed.walk_sublist steps (List.suffix_refl _) rfl
  · intro values
    have ended := wellFormed.walk_eq_run program.elements.length
      (show (beginning values).rest <:+ program.elements from List.suffix_refl _) rfl
      (Nat.le_refl _)
    rw [ended]
    rfl
  · intro fits element member
    have listed := List.mem_map_of_mem (f := Element.id) member
    rw [wellFormed.ids, List.mem_append, List.mem_range, List.mem_singleton] at listed
    have half : Nat.pow 2 63 < UInt64.size := by decide
    have rail : rightRailId < UInt64.size := by decide
    omega

end SupervisoryLadder.Ladder
