/-!
# Computations that can fail

A computation either fails with a fault or goes through with a result. What is read item by item, or
done one thing after another, goes through only when every part does.
-/

namespace SupervisoryLadder

variable {ε α β γ : Type}

/-- A computation goes through when its first part does and the rest does with its result. -/
theorem bind_eq_ok {first : Except ε α} {rest : α → Except ε β} {result : β} :
    (first >>= rest) = .ok result ↔ ∃ value, first = .ok value ∧ rest value = .ok result := by
  constructor
  · intro through
    cases first with
    | error fault => cases through
    | ok value => exact ⟨value, rfl, through⟩
  · rintro ⟨value, rfl, through⟩
    exact through

/-- Two computations with the same outcome after a renaming fail alike, or both go through, with
results that are renamed to one. -/
theorem map_eq_map {first second : Except ε α} {f : α → β}
    (same : first.map f = second.map f) :
    (∃ fault, first = .error fault ∧ second = .error fault) ∨
      ∃ value other, first = .ok value ∧ second = .ok other ∧ f value = f other := by
  cases first with
  | error fault =>
    cases second with
    | error otherFault =>
      cases same
      exact .inl ⟨fault, rfl, rfl⟩
    | ok other => cases same
  | ok value =>
    cases second with
    | error otherFault => cases same
    | ok other => exact .inr ⟨value, other, rfl, rfl, Except.ok.inj same⟩

/-- A list is read item by item; if every item is read to a renamed result, so is the list. -/
theorem mapM_rename {read : α → Except ε β} {other : α → Except ε γ} {f : β → γ}
    (each : ∀ item, other item = (read item).map f) (items : List α) :
    items.mapM other = (items.mapM read).map (List.map f) := by
  induction items with
  | nil => rfl
  | cons head rest inductionHypothesis =>
    rw [List.mapM_cons, List.mapM_cons, each, inductionHypothesis]
    cases read head with
    | error fault => rfl
    | ok first =>
      cases rest.mapM read with
      | error fault => rfl
      | ok others => rfl

/-- What a list is read to is read from its items. -/
theorem mem_of_mapM_ok {read : α → Except ε β} {items : List α} {results : List β}
    (all : items.mapM read = .ok results) {result : β} (member : result ∈ results) :
    ∃ item ∈ items, read item = .ok result := by
  induction items generalizing results with
  | nil =>
    cases all
    cases member
  | cons head rest inductionHypothesis =>
    rw [List.mapM_cons] at all
    obtain ⟨first, firstRead, following⟩ := bind_eq_ok.mp all
    obtain ⟨others, othersRead, finished⟩ := bind_eq_ok.mp following
    cases finished
    rcases List.mem_cons.mp member with rfl | later
    · exact ⟨head, List.mem_cons_self, firstRead⟩
    · obtain ⟨item, listed, itemRead⟩ := inductionHypothesis othersRead later
      exact ⟨item, List.mem_cons_of_mem _ listed, itemRead⟩

end SupervisoryLadder
