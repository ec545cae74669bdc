import SupervisoryLadder.Proofs.Passage

/-!
# Sections as lists of blocks

The elements between two labels are described block by block: `Blocks` says that a list of elements
is one block for each item of a list, in the order of the items and with nothing in between, where
each block fits a description of its item. Descriptions speak of elements and their ids, as a reader
of the program meets them, and not of rungs with references of their own.

A section that lays out the rungs of its items one after another is such a list of blocks, whatever
ids they begin at.
-/

namespace SupervisoryLadder.Ladder

/-- The elements between the labels of two sections. -/
def Program.between (program : Program) (first last : Section) : List Element :=
  (behindLabel first program.elements).takeWhile fun element => element.part ≠ .label last

/-- The elements between neighbouring labels of a generated program are the body of a section. -/
theorem between_generate (system : ControlSystem) {first last : Section}
    (follows : first.next? = some last) :
    (generate system).between first last = sectionBody system first := by
  have body (rest : List Element) :
      (sectionBody system first ++ sectionLabel system last :: rest).takeWhile
        (fun element => element.part ≠ .label last) = sectionBody system first := by
    rw [List.takeWhile_append_of_pos]
    · simp [sectionLabel]
    · intro element member
      simpa using sectionBody_unlabelled system first last element member
  rw [Program.between, generate_elements]
  cases first <;> cases follows <;>
    simp only [behindLabel, behindLabel_body, sectionLabel, reduceCtorEq, if_false, if_true,
      Part.label.injEq] <;>
    exact body _

/-- The elements are one block for each item, in the order of the items. -/
inductive Blocks {α : Type} (describes : α → List Element → Prop) : List α → List Element → Prop
  | nil : Blocks describes [] []
  | cons {item : α} {items : List α} {block elements : List Element}
      (first : describes item block) (rest : Blocks describes items elements) :
      Blocks describes (item :: items) (block ++ elements)

section

variable {α : Type} {describes : α → List Element → Prop}

/-- Every item has its block among the elements. -/
theorem Blocks.exists_block {items : List α} {elements : List Element}
    (blocks : Blocks describes items elements) {item : α} (member : item ∈ items) :
    ∃ block, block <:+: elements ∧ describes item block := by
  induction blocks with
  | nil => cases member
  | @cons head rest block elements first others inductionHypothesis =>
    cases member with
    | head => exact ⟨block, (List.prefix_append block elements).isInfix, first⟩
    | tail _ later =>
      obtain ⟨found, inside, described⟩ := inductionHypothesis later
      exact ⟨found, inside.trans (List.suffix_append block elements).isInfix, described⟩

namespace Rung

/-- Rungs that are laid out in two parts. -/
theorem layout_append (base : Nat) (front back : List Rung) :
    layout base (front ++ back) = layout base front ++ layout (base + size front) back := by
  induction front generalizing base with
  | nil => rfl
  | cons rung rest inductionHypothesis =>
    rw [List.cons_append, layout, layout, inductionHypothesis, size_cons, List.append_assoc,
      Nat.add_assoc]

/-- The rungs of items are laid out as a block for each item, if the rungs of every item fit its
description from any id on. -/
theorem blocks_layout {items : List α} {rungs : α → List Rung}
    (described : ∀ item ∈ items, ∀ base, describes item (layout base (rungs item))) (base : Nat) :
    Blocks describes items (layout base (items.flatMap rungs)) := by
  induction items generalizing base with
  | nil => exact .nil
  | cons item rest inductionHypothesis =>
    rw [List.flatMap_cons, layout_append]
    apply Blocks.cons
    · exact described item List.mem_cons_self base
    · apply inductionHypothesis
      intro other member
      exact described other (List.mem_cons_of_mem _ member)

/-- The same with one rung for each item. -/
theorem blocks_place {items : List α} {rung : α → Rung}
    (described : ∀ item ∈ items, ∀ base, describes item (place base (rung item))) (base : Nat) :
    Blocks describes items (layout base (items.map rung)) := by
  rw [List.map_eq_flatMap]
  apply blocks_layout
  intro item member start
  simpa [layout] using described item member start

/-- Placed members are what they were, with their references as ids. -/
theorem parts_placeFrom (base offset : Nat) (rung : Rung) :
    (placeFrom base offset rung).map Element.part = rung.map (Part.map (Feed.locate base)) := by
  calc (placeFrom base offset rung).map Element.part
      = ((rung.zipIdx (base + offset)).map Prod.fst).map (Part.map (Feed.locate base)) := by
        rw [placeFrom, List.map_map, List.map_map]
        rfl
    _ = rung.map (Part.map (Feed.locate base)) := by rw [List.zipIdx_map_fst]

/-- References to consecutive members become the ids at which these are placed. -/
theorem locate_members (base offset : Nat) (rung : Rung) :
    (members offset rung.length).map (Feed.locate base) =
      (placeFrom base offset rung).map Element.id := by
  have ids : (placeFrom base offset rung).map Element.id =
      List.range' (base + offset) rung.length := by
    rw [placeFrom, List.map_map]
    exact List.zipIdx_map_snd (base + offset) rung
  rw [ids, members, List.map_map]
  exact List.map_add_range' ..

end Rung

end

end SupervisoryLadder.Ladder
