/-!
# Ordered sets of names

A set of names is a strictly ascending list, so a set has exactly one representation and equality of
sets is equality of values. Names compare by code point, which is the order of their UTF-8 bytes.
-/

namespace SupervisoryLadder

/-- Of two different names one comes first. -/
theorem name_lt_of_not_lt {left right : String} (notBefore : ¬ left < right)
    (different : left ≠ right) : right < left := by
  by_cases before : right < left
  · exact before
  · have same := String.le_antisymm (String.not_lt.mp before) (String.not_lt.mp notBefore)
    exact absurd same different

/-- A finite set of names in ascending order. -/
@[ext]
structure NameSet where
  names : List String
  ascending : names.Pairwise (· < ·)
  deriving DecidableEq

namespace NameSet

/-- The set without members. -/
def empty : NameSet := ⟨[], List.Pairwise.nil⟩

/-- Puts a name at its place in an ascending list, unless it is there already. -/
def place (name : String) : List String → List String
  | [] => [name]
  | head :: rest =>
    if name < head then name :: head :: rest
    else if name = head then head :: rest
    else head :: place name rest

/-- Placing a name adds that name and nothing else. -/
theorem mem_place (name other : String) (names : List String) :
    other ∈ place name names ↔ other = name ∨ other ∈ names := by
  induction names with
  | nil => simp [place]
  | cons head rest inductionHypothesis =>
    unfold place
    split
    · simp
    · split
      · next same => simp [same]
      · simp only [List.mem_cons, inductionHypothesis]
        constructor
        · rintro (first | second | third)
          · exact .inr (.inl first)
          · exact .inl second
          · exact .inr (.inr third)
        · rintro (first | second | third)
          · exact .inr (.inl first)
          · exact .inl second
          · exact .inr (.inr third)

/-- Placing a name keeps the order strict. -/
theorem ascending_place (name : String) {names : List String}
    (ascending : names.Pairwise (· < ·)) : (place name names).Pairwise (· < ·) := by
  induction names with
  | nil => simp [place]
  | cons head rest inductionHypothesis =>
    rw [List.pairwise_cons] at ascending
    unfold place
    split
    · next before =>
      rw [List.pairwise_cons, List.pairwise_cons]
      refine ⟨?_, ascending⟩
      intro other member
      rcases List.mem_cons.mp member with same | later
      · exact same ▸ before
      · exact String.lt_trans before (ascending.1 other later)
    · next notBefore =>
      split
      · exact List.pairwise_cons.mpr ascending
      · next different =>
        rw [List.pairwise_cons]
        refine ⟨?_, inductionHypothesis ascending.2⟩
        intro other member
        rcases (mem_place name other rest).mp member with same | later
        · exact same ▸ name_lt_of_not_lt notBefore different
        · exact ascending.1 other later

/-- The set with one more name. -/
def insert (set : NameSet) (name : String) : NameSet :=
  ⟨place name set.names, ascending_place name set.ascending⟩

/-- The names that are in either set. -/
def union (left right : NameSet) : NameSet := right.names.foldl insert left

/-- The set of the listed names. -/
def ofList (names : List String) : NameSet := names.foldl insert empty

end NameSet

end SupervisoryLadder
