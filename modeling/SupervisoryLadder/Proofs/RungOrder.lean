import SupervisoryLadder.Ladder.Generation
import SupervisoryLadder.Proofs.ByteOrder

/-!
# The order of a plant's rungs

The moves of a plant are ordered by the bytes of the origin's name, then what is sensed before what
is commanded, and moves that agree in both keep the order of the model. `SensedFirst` says this of
any list without a sorting algorithm. It fixes the list: the moves with one key stand in a known
order, and the order of the keys says which key comes next.
-/

namespace SupervisoryLadder.Ladder

/-- What decides on the place of a move. -/
def rungKey (transition : Transition) : String × Controllability :=
  (transition.origin.name, transition.trigger.kind)

/-- The moves in the order of their rungs. -/
structure SensedFirst (moves ordered : List Transition) : Prop where
  rearranged : ordered.Perm moves
  sorted : ordered.Pairwise fun left right =>
    ByteOrder.bytes left.origin.name < ByteOrder.bytes right.origin.name ∨
      left.origin.name = right.origin.name ∧
        (left.trigger.kind = .uncontrollable ∨ right.trigger.kind = .controllable)
  stable : ∀ key, ordered.filter (rungKey · = key) = moves.filter (rungKey · = key)

/-- The comparison of the generator is the comparison of bytes, then of kinds. -/
theorem plantPrecedes_iff (left right : Transition) :
    plantPrecedes left right = true ↔
      ByteOrder.bytes left.origin.name < ByteOrder.bytes right.origin.name ∨
        left.origin.name = right.origin.name ∧
          (left.trigger.kind = .uncontrollable ∨ right.trigger.kind = .controllable) := by
  have sensed : (!left.trigger.isControllable) = true ↔ left.trigger.kind = .uncontrollable := by
    cases kind : left.trigger.kind <;> simp [Event.isControllable, kind]
  have commanded : right.trigger.isControllable = true ↔ right.trigger.kind = .controllable := by
    simp [Event.isControllable]
  simp only [plantPrecedes, Bool.or_eq_true, decide_eq_true_eq, Bool.and_eq_true, beq_iff_eq,
    sensed, commanded, ByteOrder.lt_iff_bytes_lt]

/-- The comparison is transitive. -/
theorem plantPrecedes_trans (first second third : Transition)
    (before : plantPrecedes first second = true) (after : plantPrecedes second third = true) :
    plantPrecedes first third = true := by
  rw [plantPrecedes_iff] at before after ⊢
  rcases before with less | ⟨sameName, kinds⟩
  · rcases after with less' | ⟨sameName', -⟩
    · exact .inl (List.lt_trans less less')
    · exact .inl (sameName' ▸ less)
  · rcases after with less' | ⟨sameName', kinds'⟩
    · exact .inl (sameName ▸ less')
    · refine .inr ⟨sameName.trans sameName', ?_⟩
      rcases kinds with sensed | commanded
      · exact .inl sensed
      · rcases kinds' with sensed' | commanded'
        · rw [commanded] at sensed'
          cases sensed'
        · exact .inr commanded'

/-- Of two moves one may come first. -/
theorem plantPrecedes_total (left right : Transition) :
    (plantPrecedes left right || plantPrecedes right left) = true := by
  rw [Bool.or_eq_true, plantPrecedes_iff, plantPrecedes_iff, ← ByteOrder.lt_iff_bytes_lt,
    ← ByteOrder.lt_iff_bytes_lt]
  by_cases sameName : left.origin.name = right.origin.name
  · cases left.trigger.kind <;> cases right.trigger.kind <;> simp [sameName]
  · by_cases before : left.origin.name < right.origin.name
    · exact .inl (.inl before)
    · exact .inr (.inl (name_lt_of_not_lt before sameName))

/-- Only moves with one key may come first in both ways. -/
theorem rungKey_eq_of_precedes {left right : Transition}
    (before : plantPrecedes left right = true) (after : plantPrecedes right left = true) :
    rungKey left = rungKey right := by
  rw [plantPrecedes_iff] at before after
  rcases before with less | ⟨sameName, kinds⟩
  · rcases after with less' | ⟨sameName', -⟩
    · exact absurd less' (List.lt_asymm less)
    · exact absurd (sameName' ▸ less) (List.lt_irrefl _)
  · rcases after with less' | ⟨-, kinds'⟩
    · exact absurd (sameName ▸ less') (List.lt_irrefl _)
    · refine Prod.ext sameName ?_
      show left.trigger.kind = right.trigger.kind
      rcases kinds with sensed | commanded
      · rcases kinds' with sensed' | commanded'
        · rw [sensed, sensed']
        · rw [sensed] at commanded'
          cases commanded'
      · rcases kinds' with sensed' | commanded'
        · rw [commanded] at sensed'
          cases sensed'
        · rw [commanded, commanded']

/-- Moves with one key may come in any order. -/
theorem precedes_of_rungKey_eq {left right : Transition} (tied : rungKey left = rungKey right) :
    plantPrecedes left right = true := by
  have sameName : left.origin.name = right.origin.name := congrArg Prod.fst tied
  have sameKind : left.trigger.kind = right.trigger.kind := congrArg Prod.snd tied
  rw [plantPrecedes_iff]
  refine .inr ⟨sameName, ?_⟩
  rw [sameKind]
  cases right.trigger.kind <;> simp

/-- Two sorted lists are the same when the items with any one key are the same in both.

The heads have one key, since each of them occurs in both lists and comes first in its own; so they
are the first items with that key. Without the heads the tails still agree in every key. -/
theorem eq_of_sorted_of_ties {α κ : Type} [DecidableEq κ] (key : α → κ) (precedes : α → α → Prop)
    (antisymmetric : ∀ {left right : α}, precedes left right → precedes right left →
      key left = key right)
    {left right : List α} (leftSorted : left.Pairwise precedes)
    (rightSorted : right.Pairwise precedes)
    (ties : ∀ shared, left.filter (key · = shared) = right.filter (key · = shared)) :
    left = right := by
  have occurs {item : α} : item ∈ left ↔ item ∈ right := by
    have shared := congrArg (item ∈ ·) (ties (key item))
    simpa using shared
  induction left generalizing right with
  | nil =>
    cases right with
    | nil => rfl
    | cons other others => exact absurd (occurs.mpr List.mem_cons_self) List.not_mem_nil
  | cons item items inductionHypothesis =>
    cases right with
    | nil => exact absurd (occurs.mp List.mem_cons_self) List.not_mem_nil
    | cons other others =>
      rw [List.pairwise_cons] at leftSorted rightSorted
      have sameKey : key item = key other := by
        rcases List.mem_cons.mp (occurs.mp List.mem_cons_self) with same | later
        · exact congrArg key same
        · rcases List.mem_cons.mp (occurs.mpr List.mem_cons_self) with same | later'
          · exact congrArg key same.symm
          · exact antisymmetric (leftSorted.1 other later') (rightSorted.1 item later)
      have same : item = other := by
        have heads := ties (key item)
        rw [List.filter_cons_of_pos (by simp), List.filter_cons_of_pos (by simp [sameKey])] at heads
        exact (List.cons.inj heads).1
      subst same
      have tails : ∀ shared, items.filter (key · = shared) = others.filter (key · = shared) := by
        intro shared
        have both := ties shared
        rw [List.filter_cons, List.filter_cons] at both
        split at both
        · exact (List.cons.inj both).2
        · exact both
      refine congrArg (item :: ·) (inductionHypothesis leftSorted.2 rightSorted.2 tails ?_)
      intro candidate
      have shared := congrArg (candidate ∈ ·) (tails (key candidate))
      simpa using shared

/-- The generator lists the moves of a plant in the order of their rungs. Moves with one key are in
order before the sort and stay so; since sorting only rearranges, they are all that has the key. -/
theorem orderedMoves_sensedFirst (plant : Automaton) :
    SensedFirst plant.moves (orderedMoves plant) where
  rearranged := List.mergeSort_perm _ _
  sorted := by
    have sorted := List.pairwise_mergeSort plantPrecedes_trans plantPrecedes_total plant.moves
    exact sorted.imp fun before => (plantPrecedes_iff _ _).mp before
  stable := by
    intro key
    have tied : (plant.moves.filter (rungKey · = key)).Pairwise (plantPrecedes · · = true) := by
      rw [List.pairwise_filter]
      refine List.pairwise_of_forall fun left right leftKey rightKey => ?_
      exact precedes_of_rungKey_eq ((of_decide_eq_true leftKey).trans
        (of_decide_eq_true rightKey).symm)
    have kept : (plant.moves.filter (rungKey · = key)).Sublist (orderedMoves plant) :=
      List.sublist_mergeSort plantPrecedes_trans plantPrecedes_total tied List.filter_sublist
    have among : (plant.moves.filter (rungKey · = key)).Sublist
        ((orderedMoves plant).filter (rungKey · = key)) := by
      simpa [List.filter_filter] using kept.filter (rungKey · = key)
    have rearranged := (List.mergeSort_perm plant.moves plantPrecedes).filter (rungKey · = key)
    exact (among.eq_of_length rearranged.length_eq.symm).symm

/-- The order fixes the list. -/
theorem SensedFirst.eq_orderedMoves {plant : Automaton} {ordered : List Transition}
    (order : SensedFirst plant.moves ordered) : ordered = orderedMoves plant := by
  have generated := orderedMoves_sensedFirst plant
  apply eq_of_sorted_of_ties rungKey (plantPrecedes · · = true) rungKey_eq_of_precedes
  · exact order.sorted.imp fun before => (plantPrecedes_iff _ _).mpr before
  · exact generated.sorted.imp fun before => (plantPrecedes_iff _ _).mpr before
  · exact fun key => (order.stable key).trans (generated.stable key).symm

/-- Two moves with different keys are in the order of their rungs when the keys are. -/
theorem SensedFirst.swap {first second : Transition} (before : plantPrecedes second first = true)
    (apart : rungKey first ≠ rungKey second) : SensedFirst [first, second] [second, first] where
  rearranged := List.Perm.swap first second []
  sorted := List.pairwise_pair.mpr ((plantPrecedes_iff second first).mp before)
  stable := by
    intro key
    by_cases firstKey : rungKey first = key <;> by_cases secondKey : rungKey second = key
    · exact absurd (firstKey.trans secondKey.symm) apart
    all_goals simp [firstKey, secondKey]

end SupervisoryLadder.Ladder
