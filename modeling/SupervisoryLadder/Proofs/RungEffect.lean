import SupervisoryLadder.Proofs.ScanRun

/-!
# What one rung does to the valuation

A rung is entered with the left rail as its only power. Its contacts read the variables as they are
when the rung is entered, since every coil stands behind all contacts; its coils then write under
one common guard. So the effect of a rung depends on nothing but the valuation, and it is stated
here once for each kind of rung. `Rung.Computes` is the form in which sections use it; the rung of a
plant's move also ends the section and has a statement of its own.
-/

namespace SupervisoryLadder.Ladder

/-- The valuation after writes in order. -/
def Valuation.writeAll (values : Valuation) (writes : List (String × Bool)) : Valuation :=
  writes.foldl (fun values entry => values.write entry.1 entry.2) values

namespace Rung

/-- Members of a rung from an offset on as elements. -/
def placeFrom (base offset : Nat) (members : Rung) : List Element :=
  (members.zipIdx (base + offset)).map fun member => ⟨member.2, member.1.map (Feed.locate base)⟩

theorem place_eq_placeFrom (base : Nat) (rung : Rung) :
    place base rung = placeFrom base 0 rung := rfl

@[simp]
theorem placeFrom_nil (base offset : Nat) : placeFrom base offset [] = [] := rfl

@[simp]
theorem placeFrom_cons (base offset : Nat) (part : Part Feed) (rest : Rung) :
    placeFrom base offset (part :: rest) =
      ⟨base + offset, part.map (Feed.locate base)⟩ :: placeFrom base (offset + 1) rest := rfl

/-- Members that are placed in two parts keep their ids. -/
theorem placeFrom_append (base offset : Nat) (front back : Rung) :
    placeFrom base offset (front ++ back) =
      placeFrom base offset front ++ placeFrom base (offset + front.length) back := by
  simp only [placeFrom, List.zipIdx_append, List.map_append, Nat.add_assoc]

/-- The ids of placed members begin at their offset. -/
theorem le_id_placeFrom {base offset : Nat} {members : Rung} {element : Element}
    (member : element ∈ placeFrom base offset members) : base + offset ≤ element.id := by
  obtain ⟨entry, indexed, rfl⟩ := List.mem_map.mp member
  exact List.le_snd_of_mem_zipIdx indexed

@[simp]
theorem length_header : header.length = 2 := rfl

/-- The header of a rung has no effect. -/
theorem run_header {scan : Scan} (going : scan.seeking = none) (base : Nat) :
    scan.run (placeFrom base 0 header) = scan := by
  simp [header, Part.map, Scan.step_of_going, going, Scan.reach]

/-- Alternative contacts behind one feeding element read their variables and write nothing. Together
they pass power on when the feeding element has power and one of the variables has the value that
its contact asks for.

Induct over the contacts: the first one gets its power, which no later contact changes, and the
feeding element lies before all of them. -/
theorem run_alternatives (scan : Scan) (going : scan.seeking = none) (base offset : Nat)
    (operands : List String) (negated : Bool) (feed : Feed)
    (before : feed.locate base < base + offset) :
    let after := scan.run
      (placeFrom base offset (operands.map fun operand => .contact operand negated [feed]))
    after.values = scan.values ∧ after.seeking = none ∧
      after.fed ((members offset operands.length).map (Feed.locate base)) =
        (scan.power (feed.locate base) &&
          operands.any fun operand => scan.values operand != negated) := by
  induction operands generalizing scan offset with
  | nil => simp [Scan.fed, members, going]
  | cons operand rest inductionHypothesis =>
    let first := scan.energize (base + offset)
      (scan.power (feed.locate base) && (scan.values operand != negated))
    have reached :
        scan.step ⟨base + offset, .contact operand negated [feed.locate base]⟩ = first := by
      simp [Scan.step_of_going, going, Scan.reach, Scan.fed, first]
    have unchanged : first.power (feed.locate base) = scan.power (feed.locate base) := by
      simp only [first, Scan.energize]
      rw [if_neg (by omega)]
    obtain ⟨sameValues, stillGoing, power⟩ :=
      inductionHypothesis first going (offset + 1) (by omega)
    have kept : (first.run (placeFrom base (offset + 1)
        (rest.map fun operand => .contact operand negated [feed]))).power (base + offset) =
          (scan.power (feed.locate base) && (scan.values operand != negated)) := by
      rw [Scan.run_power fun element member same => by
        have := le_id_placeFrom member
        omega]
      simp [first, Scan.energize]
    rw [List.map_cons, placeFrom_cons, Part.map, List.map_cons, List.map_nil, Scan.run_cons,
      reached]
    refine ⟨sameValues, stillGoing, ?_⟩
    rw [unchanged] at power
    simp only [Scan.fed, members, List.length_cons, List.range'_succ, List.map_cons, List.any_cons,
      Feed.locate] at power ⊢
    rw [kept, power]
    exact (Bool.and_or_distrib_left _ _ _).symm

/-- A single contact behind one feeding element. -/
theorem run_contact (scan : Scan) (going : scan.seeking = none) (base offset : Nat)
    (operand : String) (negated : Bool) (feed : Feed)
    (before : feed.locate base < base + offset) :
    let after := scan.run (placeFrom base offset [.contact operand negated [feed]])
    after.values = scan.values ∧ after.seeking = none ∧
      after.power (base + offset) =
        (scan.power (feed.locate base) && (scan.values operand != negated)) := by
  simpa [Scan.fed, members, Feed.locate] using
    run_alternatives scan going base offset [operand] negated feed before

/-- Coils that latch under one guard all write, in order, or none does. The guard is the power of
contacts, which no coil changes. -/
theorem run_latches (scan : Scan) (going : scan.seeking = none) (base offset : Nat)
    (writes : List (String × Bool)) (inputs : List Feed) :
    scan.run (placeFrom base offset (writes.map fun entry =>
        .coil entry.1 (if entry.2 then .set else .reset) inputs)) =
      if scan.fed (inputs.map (Feed.locate base)) then
        { scan with values := scan.values.writeAll writes }
      else scan := by
  induction writes generalizing scan offset with
  | nil => simp [Valuation.writeAll]
  | cons entry rest inductionHypothesis =>
    obtain ⟨name, value⟩ := entry
    have reached : scan.step ⟨base + offset, (Part.coil name (if value then .set else .reset)
        inputs).map (Feed.locate base)⟩ =
          if scan.fed (inputs.map (Feed.locate base)) then scan.write name value else scan := by
      cases value <;> simp [Scan.step_of_going, going, Scan.reach, Part.map]
    rw [List.map_cons, placeFrom_cons, Scan.run_cons, reached]
    by_cases powered : scan.fed (inputs.map (Feed.locate base)) = true
    · rw [if_pos powered, if_pos powered, inductionHypothesis (scan.write name value) going,
        if_pos (show (scan.write name value).fed _ = true from powered)]
      rfl
    · rw [if_neg powered, if_neg powered, inductionHypothesis scan going, if_neg powered]

/-- In every scan that reaches the rung the valuation changes as the effect says, and the scan goes
on behind the rung. -/
def Computes (rung : Rung) (effect : Valuation → Valuation) : Prop :=
  ∀ (base : Nat) (scan : Scan), scan.ReadyAt base →
    (scan.run (place base rung)).values = effect scan.values ∧
      (scan.run (place base rung)).seeking = none

/-- Rungs that are laid out one after another compute their effects one after another, and the scan
arrives behind the last of them. -/
theorem layout_run {α : Type} (items : List α) (rung : α → Rung)
    (effect : α → Valuation → Valuation)
    (computes : ∀ item ∈ items, (rung item).Computes (effect item)) (base : Nat) (scan : Scan)
    (ready : scan.ReadyAt base) :
    (scan.run (layout base (items.map rung))).values =
        items.foldl (fun values item => effect item values) scan.values ∧
      (scan.run (layout base (items.map rung))).ReadyAt (base + size (items.map rung)) := by
  induction items generalizing base scan with
  | nil => exact ⟨rfl, ready⟩
  | cons item rest inductionHypothesis =>
    obtain ⟨computed, going⟩ := computes item List.mem_cons_self base scan ready
    have behind : (scan.run (place base (rung item))).ReadyAt (base + (rung item).length) :=
      Scan.land_of_going going ▸
        ready.land_run (Nat.le_add_right _ _) fun element member => id_place member
    obtain ⟨others, arrived⟩ := inductionHypothesis
      (fun other member => computes other (List.mem_cons_of_mem _ member)) _ _ behind
    rw [List.map_cons, layout, Scan.run_append, size_cons, ← Nat.add_assoc]
    refine ⟨?_, arrived⟩
    rw [others, computed, List.foldl_cons]

/-- The effect of a supervisor's move: the token goes from the origin to the destination when the
origin has it and one of the events occurs. -/
def followMove (index : Nat) (origin destination : State) (events : List Event)
    (values : Valuation) : Valuation :=
  if values (Signal.supervisorState index origin).variableName &&
      events.any fun event => values (Signal.occurrence event).variableName then
    values.writeAll [((Signal.supervisorState index destination).variableName, true),
      ((Signal.supervisorState index origin).variableName, false)]
  else values

/-- The rung of a supervisor's move computes the move. -/
theorem supervisorMove_computes (index : Nat) (origin destination : State) (events : List Event) :
    (supervisorMove index origin destination events).Computes
      (followMove index origin destination events) := by
  intro base scan ready
  let operands := events.map fun event => (Signal.occurrence event).variableName
  have shape : supervisorMove index origin destination events =
      header ++ ([.contact (Signal.supervisorState index origin).variableName false [.rail]] ++
        (operands.map (fun operand => .contact operand false [.member 2]) ++
          [((Signal.supervisorState index destination).variableName, true),
            ((Signal.supervisorState index origin).variableName, false)].map fun entry =>
              .coil entry.1 (if entry.2 then .set else .reset) (members 3 operands.length))) := by
    simp [supervisorMove, contact, coil, operands, Function.comp_def]
  obtain ⟨values₁, going₁, power₁⟩ := run_contact scan ready.going base 2
    (Signal.supervisorState index origin).variableName false .rail
    (Nat.lt_of_lt_of_le ready.behind_rail (Nat.le_add_right _ _))
  obtain ⟨values₂, going₂, power₂⟩ := run_alternatives _ going₁ base 3 operands false (.member 2)
    (Nat.lt_succ_self _)
  rw [Feed.locate, power₁, values₁, Feed.locate, ready.rail] at power₂
  have guard : _ = (scan.values (Signal.supervisorState index origin).variableName &&
      events.any fun event => scan.values (Signal.occurrence event).variableName) :=
    power₂.trans (by simp [operands, Function.comp_def])
  rw [shape, place_eq_placeFrom]
  simp only [placeFrom_append, Scan.run_append, run_header ready.going, length_header, Nat.zero_add,
    List.length_singleton, Nat.reduceAdd]
  rw [run_latches _ going₂, guard, followMove]
  split
  · exact ⟨by rw [values₂, values₁], going₂⟩
  · exact ⟨values₂.trans values₁, going₂⟩

/-- The effect of a flag's rung: the flag is whether one of the state variables is true. -/
def raiseFlag (event : Event) (states : List String) (values : Valuation) : Valuation :=
  values.write (Signal.disablement event).variableName (states.any values)

/-- The rung of a flag computes the flag from the valuation at its beginning. -/
theorem disablementFlag_computes (event : Event) (states : List String) :
    (disablementFlag event states).Computes (raiseFlag event states) := by
  intro base scan ready
  obtain ⟨values₁, going₁, power₁⟩ := run_alternatives scan ready.going base 2 states false .rail
    (Nat.lt_of_lt_of_le ready.behind_rail (Nat.le_add_right _ _))
  have guard : _ = states.any scan.values :=
    power₁.trans (by simp [Feed.locate, ready.rail])
  rw [disablementFlag, place_eq_placeFrom]
  simp only [placeFrom_append, Scan.run_append, run_header ready.going, length_header, Nat.zero_add]
  simp [Scan.step_of_going, going₁, coil, Part.map, Scan.reach, guard, Scan.write, values₁,
    raiseFlag]

/-- The effect of the start rung: the states of the signals are entered on request. -/
def enterStates (signals : List Signal) (values : Valuation) : Valuation :=
  if values Signal.start.variableName then
    values.writeAll (signals.map fun signal => (signal.variableName, true))
  else values

/-- The start rung computes the entry. -/
theorem start_computes (signals : List Signal) :
    (start signals).Computes (enterStates signals) := by
  intro base scan ready
  have shape : start signals =
      header ++ ([.contact Signal.start.variableName false [.rail]] ++
        (signals.map fun signal => (signal.variableName, true)).map fun entry =>
          .coil entry.1 (if entry.2 then .set else .reset) [.member 2]) := by
    simp [start, contact, coil, Function.comp_def]
  obtain ⟨values₁, going₁, power₁⟩ := run_contact scan ready.going base 2
    Signal.start.variableName false .rail
    (Nat.lt_of_lt_of_le ready.behind_rail (Nat.le_add_right _ _))
  rw [shape, place_eq_placeFrom]
  simp only [placeFrom_append, Scan.run_append, run_header ready.going, length_header, Nat.zero_add,
    List.length_singleton, Nat.reduceAdd]
  rw [run_latches _ going₁]
  simp only [Scan.fed, List.map_cons, List.map_nil, Feed.locate, List.any_cons, List.any_nil,
    Bool.or_false, power₁, ready.rail, Bool.true_and, Bool.bne_false, enterStates]
  split
  · exact ⟨by rw [values₁], going₁⟩
  · exact ⟨values₁, going₁⟩

/-- A plant can make a move when it is in the origin and the event is sensed, or, for an event that
is commanded, not forbidden. -/
def moveEnabled (plant : String) (transition : Transition) (values : Valuation) : Bool :=
  values (Signal.plantState plant transition.origin).variableName &&
    if transition.trigger.isControllable then
      !values (Signal.disablement transition.trigger).variableName
    else values (Signal.occurrence transition.trigger).variableName

/-- What a move of a plant writes, in order: the petition of a commanded event, the event, the
destination, the origin. -/
def moveWrites (plant : String) (transition : Transition) : List (String × Bool) :=
  (if transition.trigger.isControllable then
    [((Signal.petition transition.trigger).variableName, true)] else []) ++
    [((Signal.occurrence transition.trigger).variableName, true),
      ((Signal.plantState plant transition.destination).variableName, true),
      ((Signal.plantState plant transition.origin).variableName, false)]

/-- The rung of a plant's move makes the move when it is enabled and then leaves for the procedures;
otherwise it does nothing. The guard contact, at offset three, has power exactly in the first case.

The guard is evaluated before any coil, and coils, jump and guard share its power. -/
theorem plantMove_run (plant : String) (transition : Transition) (base : Nat) (scan : Scan)
    (ready : scan.ReadyAt base) :
    let after := scan.run (place base (plantMove plant transition))
    after.values =
        (if moveEnabled plant transition scan.values then
          scan.values.writeAll (moveWrites plant transition) else scan.values) ∧
      after.seeking =
        (if moveEnabled plant transition scan.values then some .procedures else none) ∧
      after.power (base + 3) = moveEnabled plant transition scan.values := by
  let guarded := if transition.trigger.isControllable then
    (Signal.disablement transition.trigger).variableName
    else (Signal.occurrence transition.trigger).variableName
  have shape : plantMove plant transition =
      header ++
        ([.contact (Signal.plantState plant transition.origin).variableName false [.rail]] ++
          ([.contact guarded transition.trigger.isControllable [.member 2]] ++
            ((moveWrites plant transition).map (fun entry =>
              .coil entry.1 (if entry.2 then .set else .reset) [.member 3]) ++
                [.jump .procedures [.member 3]]))) := by
    by_cases commanded : transition.trigger.isControllable = true <;>
      simp [plantMove, contact, negatedContact, coil, moveWrites, guarded, commanded]
  obtain ⟨values₁, going₁, power₁⟩ := run_contact scan ready.going base 2
    (Signal.plantState plant transition.origin).variableName false .rail
    (Nat.lt_of_lt_of_le ready.behind_rail (Nat.le_add_right _ _))
  obtain ⟨values₂, going₂, power₂⟩ := run_contact _ going₁ base 3 guarded
    transition.trigger.isControllable (.member 2) (Nat.lt_succ_self _)
  rw [Feed.locate, power₁, values₁, Feed.locate, ready.rail] at power₂
  have guard : _ = moveEnabled plant transition scan.values := power₂.trans (by
    by_cases commanded : transition.trigger.isControllable = true <;>
      simp [moveEnabled, guarded, commanded])
  rw [shape, place_eq_placeFrom]
  simp only [placeFrom_append, Scan.run_append, run_header ready.going, length_header, Nat.zero_add,
    List.length_singleton, Nat.reduceAdd]
  rw [run_latches _ going₂]
  simp only [Scan.fed, List.map_cons, List.map_nil, Feed.locate, List.any_cons, List.any_nil,
    Bool.or_false, guard]
  have untouched := values₂.trans values₁
  generalize (scan.run _).run _ = entered at *
  by_cases enabled : moveEnabled plant transition scan.values = true <;>
    simp [enabled, Scan.step_of_going, going₂, Part.map, Scan.reach, Scan.fed, Feed.locate, guard,
      untouched]

end Rung

end SupervisoryLadder.Ladder
