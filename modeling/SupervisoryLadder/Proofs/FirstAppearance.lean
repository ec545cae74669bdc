import SupervisoryLadder.Automaton.Distinct

/-!
# Order of first appearance

The first appearances of a list are described by positions: every member is listed, and members are
listed in the strict order of the positions at which they first occur, so none is listed twice. The
description mentions no way to compute the list.

Leaving out members changes their positions but not which of two remaining members comes first. So
whatever keeps the head of a list and leaves it out from there on lists first appearances, whether
the head is taken out of the rest beforehand or out of its result.
-/

namespace SupervisoryLadder

variable {α : Type} [BEq α]

/-- The members of the items in order of first appearance, each once. -/
structure FirstAppearances (items listed : List α) : Prop where
  complete : ∀ item, item ∈ listed ↔ item ∈ items
  ordered : listed.Pairwise fun left right => items.idxOf left < items.idxOf right

variable [LawfulBEq α]

/-- Of two members that are kept, the same one comes first before and after the others are left
out. -/
theorem idxOf_filter_lt_iff (keep : α → Bool) {left right : α} (leftKept : keep left = true)
    (rightKept : keep right = true) (items : List α) :
    (items.filter keep).idxOf left < (items.filter keep).idxOf right ↔
      items.idxOf left < items.idxOf right := by
  induction items with
  | nil => rfl
  | cons head rest inductionHypothesis =>
    by_cases kept : keep head = true
    · rw [List.filter_cons_of_pos kept]
      simp only [List.idxOf_cons]
      cases head == left <;> cases head == right <;> simp [inductionHypothesis]
    · have notLeft : (head == left) = false := beq_false_of_ne fun same => kept (same ▸ leftKept)
      have notRight : (head == right) = false := beq_false_of_ne fun same => kept (same ▸ rightKept)
      rw [List.filter_cons_of_neg kept, inductionHypothesis]
      simp only [List.idxOf_cons, notLeft, notRight, cond_false]
      omega

namespace FirstAppearances

omit [LawfulBEq α] in
/-- No member is listed twice. -/
theorem nodup {items listed : List α} (first : FirstAppearances items listed) : listed.Nodup := by
  apply first.ordered.imp
  intro left right before same
  exact Nat.lt_irrefl _ (same ▸ before)

/-- First appearances among the items that are kept. -/
theorem filter {items listed : List α} (first : FirstAppearances items listed) (keep : α → Bool) :
    FirstAppearances (items.filter keep) (listed.filter keep) where
  complete := by
    intro item
    rw [List.mem_filter, List.mem_filter, first.complete]
  ordered := by
    rw [List.pairwise_filter]
    apply first.ordered.imp
    intro left right before leftKept rightKept
    exact (idxOf_filter_lt_iff keep leftKept rightKept items).mpr before

/-- The head appears first, and then what appears in the rest without it. -/
theorem cons {head : α} {rest listed : List α}
    (first : FirstAppearances (rest.filter fun other => !other == head) listed) :
    FirstAppearances (head :: rest) (head :: listed) where
  complete := by
    intro item
    rw [List.mem_cons, List.mem_cons, first.complete, List.mem_filter]
    by_cases same : item = head <;> simp [same]
  ordered := by
    let keep : α → Bool := fun other => !other == head
    have kept {item : α} (member : item ∈ listed) : keep item = true :=
      (List.mem_filter.mp ((first.complete item).mp member)).2
    have behind {item : α} (member : item ∈ listed) :
        (head :: rest).idxOf item = rest.idxOf item + 1 := by
      have different : item ≠ head := by simpa [keep] using kept member
      rw [List.idxOf_cons, beq_false_of_ne different.symm, cond_false]
    rw [List.pairwise_cons]
    constructor
    · intro item member
      rw [behind member, List.idxOf_cons_self]
      exact Nat.succ_pos _
    · apply first.ordered.imp_of_mem
      intro left right leftMember rightMember before
      have inRest := (idxOf_filter_lt_iff keep (kept leftMember) (kept rightMember) rest).mp before
      rw [behind leftMember, behind rightMember]
      exact Nat.succ_lt_succ inRest

/-- Erasing repetitions leaves the first appearances. -/
theorem eraseDups (items : List α) : FirstAppearances items items.eraseDups := by
  match items with
  | [] => exact ⟨fun _ => Iff.rfl, List.Pairwise.nil⟩
  | head :: rest =>
    rw [List.eraseDups_cons]
    exact cons (eraseDups _)
termination_by items.length
decreasing_by
  exact Nat.lt_succ_of_le (List.length_filter_le _ _)

/-- First appearances are told by names that tell them apart. -/
theorem map_eraseDups {β : Type} [BEq β] [LawfulBEq β] {name : α → β} {items : List α}
    (apart : ∀ left ∈ items.eraseDups, ∀ right ∈ items.eraseDups,
      name left = name right → left = right) :
    FirstAppearances (items.map name) (items.eraseDups.map name) := by
  have apartItems : ∀ left ∈ items, ∀ right ∈ items, name left = name right → left = right := by
    simpa using apart
  rw [← Distinct.eraseDups_map items apartItems]
  exact eraseDups _

end FirstAppearances

end SupervisoryLadder
