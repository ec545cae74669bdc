/-!
# Lists by first appearance

`List.eraseDups` keeps the first appearance of every member. The laws below are what the automata
need of it: the result repeats nothing, a list without repetition is left alone, appending items
only ever extends the result, and a map that tells the members apart keeps their first appearances.
-/

namespace SupervisoryLadder.Distinct

variable {α : Type} [BEq α] [LawfulBEq α]

/-- Keeping first appearances leaves no repetition. Each step removes the head from the tail, so the
head cannot return; the tail shrinks, which carries the induction. -/
theorem nodup_eraseDups (items : List α) : items.eraseDups.Nodup := by
  match items with
  | [] => exact List.nodup_nil
  | head :: rest =>
    rw [List.eraseDups_cons, List.nodup_cons]
    refine ⟨?_, nodup_eraseDups _⟩
    rw [List.mem_eraseDups, List.mem_filter]
    intro kept
    simpa using kept.2
termination_by items.length
decreasing_by
  exact Nat.lt_succ_of_le (List.length_filter_le _ _)

/-- A list that repeats nothing is its own list of first appearances. -/
theorem eraseDups_eq_self {items : List α} (distinct : items.Nodup) : items.eraseDups = items := by
  induction items with
  | nil => rfl
  | cons head rest inductionHypothesis =>
    rw [List.nodup_cons] at distinct
    have untouched : rest.filter (fun other => !other == head) = rest := by
      rw [List.filter_eq_self]
      intro other member
      have different : other ≠ head := fun same => distinct.1 (same ▸ member)
      simpa using different
    rw [List.eraseDups_cons, untouched, inductionHypothesis distinct.2]

/-- What is listed by first appearance can be extended before or after the repetitions go. -/
theorem eraseDups_eraseDups_append (items more : List α) :
    (items.eraseDups ++ more).eraseDups = (items ++ more).eraseDups := by
  have sameRest : more.removeAll items.eraseDups = more.removeAll items := by
    rw [List.removeAll, List.removeAll]
    apply List.filter_congr
    intro item _
    simp
  rw [List.eraseDups_append, List.eraseDups_append, eraseDups_eq_self (nodup_eraseDups items),
    sameRest]

/-- Appended items can only come after the first appearances of what was there. -/
theorem eraseDups_append_start (items more : List α) :
    items.eraseDups <+: (items ++ more).eraseDups := by
  rw [List.eraseDups_append]
  exact List.prefix_append _ _

/-- Extending a list without repetition keeps it as the start of the result. -/
theorem start_of_extend {items : List α} (distinct : items.Nodup) (more : List α) :
    items <+: (items ++ more).eraseDups := by
  have start := eraseDups_append_start items more
  rwa [eraseDups_eq_self distinct] at start

/-- A list that begins with the first appearances of some items gains nothing from them. -/
theorem eraseDups_append_of_start {items whole : List α} (start : items.eraseDups <+: whole)
    (distinct : whole.Nodup) : (items.eraseDups ++ whole).eraseDups = whole := by
  obtain ⟨rest, rfl⟩ := start
  rw [List.nodup_append] at distinct
  obtain ⟨frontDistinct, restDistinct, apart⟩ := distinct
  have gone : items.eraseDups.removeAll items.eraseDups = [] := by
    rw [List.removeAll, List.filter_eq_nil_iff]
    intro item member
    simp [member]
  have kept : rest.removeAll items.eraseDups = rest := by
    rw [List.removeAll, List.filter_eq_self]
    intro item member
    have absent : item ∉ items.eraseDups := fun present => apart item present item member rfl
    simp [absent]
  have remaining : (items.eraseDups ++ rest).removeAll items.eraseDups = rest := by
    rw [List.removeAll, List.filter_append, ← List.removeAll, ← List.removeAll, gone, kept,
      List.nil_append]
  rw [List.eraseDups_append, remaining, eraseDups_eq_self frontDistinct,
    eraseDups_eq_self restDistinct]

/-- First appearances are kept under a map that tells the members of the list apart. -/
theorem eraseDups_map {β : Type} [BEq β] [LawfulBEq β] {f : α → β} (items : List α)
    (apart : ∀ left ∈ items, ∀ right ∈ items, f left = f right → left = right) :
    (items.map f).eraseDups = items.eraseDups.map f := by
  match items with
  | [] => rfl
  | head :: rest =>
    have others : (rest.map f).filter (fun other => !other == f head) =
        (rest.filter fun other => !other == head).map f := by
      rw [List.filter_map]
      congr 1
      apply List.filter_congr
      intro other member
      have same : f other = f head ↔ other = head :=
        ⟨apart other (List.mem_cons_of_mem _ member) head List.mem_cons_self, congrArg f⟩
      simp only [Function.comp_apply, Bool.not_eq_eq_eq_not, Bool.not_not]
      rw [Bool.eq_iff_iff, beq_iff_eq, beq_iff_eq, same]
    rw [List.map_cons, List.eraseDups_cons, List.eraseDups_cons, List.map_cons, others]
    congr 1
    apply eraseDups_map
    intro left leftMember right rightMember
    exact apart left (List.mem_cons_of_mem _ (List.mem_filter.mp leftMember).1) right
      (List.mem_cons_of_mem _ (List.mem_filter.mp rightMember).1)
termination_by items.length
decreasing_by
  exact Nat.lt_succ_of_le (List.length_filter_le _ _)

end SupervisoryLadder.Distinct
