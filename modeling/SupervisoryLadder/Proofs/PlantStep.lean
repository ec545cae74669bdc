import SupervisoryLadder.Proofs.Passage
import SupervisoryLadder.Proofs.RungOrder

/-!
# One plant move in a scan

The rungs of the plants are tried one after another, and the first one whose move is enabled makes
the move and leaves the section. So a passage over the plants makes at most one move, the valuation
it starts from decides which one, and no rung behind it is reached. Nothing is assumed about names:
plants may share bits and flags, since the section writes only when it is left.
-/

namespace SupervisoryLadder.Ladder

/-- A move of one plant of a system. -/
structure PlantMove where
  plant : Automaton
  transition : Transition
  deriving DecidableEq

namespace PlantMove

/-- The rung of the move. -/
def rung (move : PlantMove) : Rung := Rung.plantMove move.plant.name move.transition

/-- The plant is in the origin, and the event is sensed or, if it is commanded, not forbidden. -/
def enabled (move : PlantMove) (values : Valuation) : Bool :=
  Rung.moveEnabled move.plant.name move.transition values

/-- What the move writes, in order. -/
def writes (move : PlantMove) : List (String × Bool) :=
  Rung.moveWrites move.plant.name move.transition

/-- The variables by which the move is announced: the petition of a commanded event, and the
event. -/
def announced (move : PlantMove) : List String :=
  (if move.transition.trigger.isControllable then
    [(Signal.petition move.transition.trigger).variableName] else []) ++
    [(Signal.occurrence move.transition.trigger).variableName]

/-- How the move changes the bits of the plant: the destination is entered, then the origin left. -/
def changes (move : PlantMove) : List (String × Bool) :=
  [((Signal.plantState move.plant.name move.transition.destination).variableName, true),
    ((Signal.plantState move.plant.name move.transition.origin).variableName, false)]

/-- A move first announces itself and then changes the state of the plant. -/
theorem writes_eq (move : PlantMove) :
    move.writes = move.announced.map (fun name => (name, true)) ++ move.changes := by
  by_cases commanded : move.transition.trigger.isControllable = true <;>
    simp [writes, Rung.moveWrites, announced, changes, commanded]

end PlantMove

/-- The moves of the plants, plant by plant, those of each plant as listed by `order`. -/
def movesInOrder (order : Automaton → List Transition) (plants : List Automaton) :
    List PlantMove :=
  plants.flatMap fun plant => (order plant).map (PlantMove.mk plant)

/-- The moves in the order of the rungs are the moves of the plants. -/
theorem mem_movesInOrder {plants : List Automaton} {move : PlantMove} :
    move ∈ movesInOrder orderedMoves plants ↔
      move.plant ∈ plants ∧ move.transition ∈ move.plant.moves := by
  simp only [movesInOrder, List.mem_flatMap, List.mem_map, orderedMoves, List.mem_mergeSort]
  constructor
  · rintro ⟨plant, member, transition, moves, rfl⟩
    exact ⟨member, moves⟩
  · rintro ⟨member, moves⟩
    exact ⟨move.plant, member, move.transition, moves, rfl⟩

/-- Every list of the moves that is in the order of the rungs is the one that is generated. -/
theorem movesInOrder_eq {order : Automaton → List Transition} {plants : List Automaton}
    (ordered : ∀ plant ∈ plants, SensedFirst plant.moves (order plant)) :
    movesInOrder order plants = movesInOrder orderedMoves plants := by
  rw [movesInOrder, movesInOrder, List.flatMap_def, List.flatMap_def]
  refine congrArg List.flatten (List.map_congr_left fun plant member => ?_)
  rw [(ordered plant member).eq_orderedMoves]

/-- The ids of the guard contacts of moves whose rungs are laid out from `base` on. A guard contact
stands behind the two members of the header and the contact on the origin. -/
def guardIds (base : Nat) : List PlantMove → List (Nat × PlantMove)
  | [] => []
  | move :: rest => (base + 3, move) :: guardIds (base + move.rung.length) rest

/-- The plant moves of the program with the ids of their guard contacts. -/
def plantGuards (system : ControlSystem) : List (Nat × PlantMove) :=
  guardIds (sectionStart system .plants + 1) (movesInOrder orderedMoves system.plants)

/-- The plant moves that fire in a scan: those whose guard contact has power. -/
def firedMoves (system : ControlSystem) (scan : Scan) : List PlantMove :=
  ((plantGuards system).filter fun guard => scan.power guard.1).map Prod.snd

/-- The rungs of the plants' section are those of all moves. -/
theorem sectionRungs_plants (system : ControlSystem) :
    sectionRungs system .plants =
      (movesInOrder orderedMoves system.plants).map PlantMove.rung := by
  simp only [sectionRungs, movesInOrder, List.map_flatMap, List.map_map]
  rfl

/-- The body of the plants' section is the layout of the rungs of all moves. -/
theorem sectionBody_plants (system : ControlSystem) :
    sectionBody system .plants = Rung.layout (sectionStart system .plants + 1)
      ((movesInOrder orderedMoves system.plants).map PlantMove.rung) := by
  rw [sectionBody, sectionRungs_plants]

/-- The guard contact is not the last member of its rung. -/
theorem guard_lt_length (move : PlantMove) : 3 < move.rung.length := by
  simp only [PlantMove.rung, Rung.plantMove, List.length_append, List.length_cons, List.length_nil,
    Rung.length_header]
  omega

/-- The guards come behind the base. -/
theorem le_guardIds {base : Nat} {moves : List PlantMove} {guard : Nat × PlantMove}
    (member : guard ∈ guardIds base moves) : base ≤ guard.1 := by
  induction moves generalizing base with
  | nil => cases member
  | cons move rest inductionHypothesis =>
    rcases List.mem_cons.mp member with rfl | later
    · exact Nat.le_add_right _ _
    · exact Nat.le_trans (Nat.le_add_right _ _) (inductionHypothesis later)

/-- The guards come before the end of the rungs. -/
theorem guardIds_lt {base : Nat} {moves : List PlantMove} {guard : Nat × PlantMove}
    (member : guard ∈ guardIds base moves) :
    guard.1 < base + Rung.size (moves.map PlantMove.rung) := by
  induction moves generalizing base with
  | nil => cases member
  | cons move rest inductionHypothesis =>
    have inside := guard_lt_length move
    rw [List.map_cons, Rung.size_cons]
    rcases List.mem_cons.mp member with rfl | later
    · show base + 3 < _
      omega
    · have bound := inductionHypothesis later
      omega

/-- The guard contact of a move as the element with this id: it is fed by the contact on the origin
right before it, and reads the flag of a commanded event, negated, or the sensed event. -/
def PlantMove.guardContact (move : PlantMove) (id : Nat) : Element :=
  let event := move.transition.trigger
  let signal := if event.isControllable then Signal.disablement event else Signal.occurrence event
  ⟨id, .contact signal.variableName event.isControllable [id - 1]⟩

/-- Every id that counts as the guard of a move is the id of its guard contact in the program. -/
theorem guardContact_mem (system : ControlSystem) {guard : Nat × PlantMove}
    (member : guard ∈ plantGuards system) :
    guard.2.guardContact guard.1 ∈ (generate system).elements := by
  have inRung (move : PlantMove) (base : Nat) :
      move.guardContact (base + 3) ∈ Rung.place base move.rung := by
    by_cases commanded : move.transition.trigger.isControllable = true <;>
      simp [PlantMove.guardContact, PlantMove.rung, Rung.plantMove, Rung.place, Rung.header,
        Rung.contact, Rung.negatedContact, Rung.coil, Part.map, Feed.locate, commanded]
  have inLayout (moves : List PlantMove) (base : Nat) (listed : guard ∈ guardIds base moves) :
      guard.2.guardContact guard.1 ∈ Rung.layout base (moves.map PlantMove.rung) := by
    induction moves generalizing base with
    | nil => cases listed
    | cons move rest inductionHypothesis =>
      rw [List.map_cons, Rung.layout, List.mem_append]
      rcases List.mem_cons.mp listed with rfl | later
      · exact .inl (inRung move base)
      · exact .inr (inductionHypothesis _ later)
  have inBody : guard.2.guardContact guard.1 ∈ sectionBody system .plants :=
    sectionBody_plants system ▸ inLayout _ _ member
  rw [generate_elements]
  simp [inBody]

/-- Of the moves whose rungs a scan tries, the first one that is enabled is made, and only its guard
contact has power; the jump then passes over all rungs behind it.

Induct over the moves. A rung whose move is not enabled leaves the valuation as it is, so the rungs
behind it see the same moves enabled. A rung whose move is enabled starts the jump, and the guards
behind it, which had no power before, do not get any. -/
theorem run_moves (moves : List PlantMove) (base : Nat) (scan : Scan) (ready : scan.ReadyAt base) :
    let after := scan.run (Rung.layout base (moves.map PlantMove.rung))
    let first := moves.find? (·.enabled scan.values)
    after.values = first.elim scan.values (fun move => scan.values.writeAll move.writes) ∧
      after.seeking = first.map (fun _ => Section.procedures) ∧
      ((guardIds base moves).filter fun guard => after.power guard.1).map Prod.snd =
        first.toList := by
  induction moves generalizing base scan with
  | nil => simp [Rung.layout, guardIds, ready.going]
  | cons move rest inductionHypothesis =>
    let tried := scan.run (Rung.place base move.rung)
    obtain ⟨values, seeking, power⟩ :=
      Rung.plantMove_run move.plant.name move.transition base scan ready
    have split : scan.run (Rung.layout base ((move :: rest).map PlantMove.rung)) =
        tried.run (Rung.layout (base + move.rung.length) (rest.map PlantMove.rung)) := by
      rw [List.map_cons, Rung.layout, Scan.run_append]
    have behind : tried.land.ReadyAt (base + move.rung.length) :=
      ready.land_run (Nat.le_add_right _ _) fun element member => Rung.id_place member
    rw [split]
    by_cases enabled : move.enabled scan.values = true
    · have jumping : tried.seeking = some .procedures := seeking.trans (if_pos enabled)
      have jumped : tried.run (Rung.layout (base + move.rung.length) (rest.map PlantMove.rung)) =
          tried := by
        refine Scan.run_of_seeking jumping fun element member => ?_
        refine Rung.unlabelled_layout (fun rung present => ?_) member
        obtain ⟨later, -, rfl⟩ := List.mem_map.mp present
        exact plantMove_unlabelled later.plant.name later.transition .procedures
      have others : (guardIds (base + move.rung.length) rest).filter
          (fun guard => tried.power guard.1) = [] := by
        rw [List.filter_eq_nil_iff]
        intro guard member
        have unpowered : tried.power guard.1 = false := behind.ahead guard.1 (le_guardIds member)
        simp [unpowered]
      have found : (move :: rest).find? (·.enabled scan.values) = some move :=
        List.find?_cons_of_pos enabled
      have powered : tried.power (base + 3) = true := power.trans enabled
      simp only [jumped, found]
      refine ⟨values.trans (if_pos enabled), jumping, ?_⟩
      rw [guardIds, List.filter_cons, if_pos powered, others]
      rfl
    · have going : tried.seeking = none := seeking.trans (if_neg enabled)
      have unchanged : tried.values = scan.values := values.trans (if_neg enabled)
      rw [Scan.land_of_going going] at behind
      obtain ⟨restValues, restSeeking, restGuards⟩ := inductionHypothesis _ tried behind
      have unpowered : ¬ (tried.run (Rung.layout (base + move.rung.length)
          (rest.map PlantMove.rung))).power (base + 3) = true := by
        have unreached := guard_lt_length move
        rw [Scan.run_power fun element member same => by
          have := Rung.id_layout member
          omega]
        exact fun powered => enabled (power.symm.trans powered)
      rw [unchanged] at restValues restSeeking restGuards
      have skipped : (move :: rest).find? (·.enabled scan.values) =
          rest.find? (·.enabled scan.values) := List.find?_cons_of_neg enabled
      simp only [skipped]
      refine ⟨restValues, restSeeking, ?_⟩
      rw [guardIds, List.filter_cons, if_neg unpowered]
      exact restGuards

/-- A passage over the plants' section makes the first move that is enabled, if there is one, and no
other guard contact has power. Either way the scan arrives at the procedures. -/
theorem pass_plants (system : ControlSystem) (scan : Scan)
    (ready : scan.ReadyAt (sectionStart system .plants + 1)) :
    let after := (generate system).pass .plants .procedures scan
    let first := (movesInOrder orderedMoves system.plants).find? (·.enabled scan.values)
    after.values = first.elim scan.values (fun move => scan.values.writeAll move.writes) ∧
      firedMoves system after = first.toList ∧
      after.ReadyAt (sectionStart system .procedures + 1) := by
  obtain ⟨values, seeking, fired⟩ :=
    run_moves (movesInOrder orderedMoves system.plants) _ scan ready
  rw [← sectionBody_plants] at values seeking fired
  have aimed : (scan.run (sectionBody system .plants)).seeking = none ∨
      (scan.run (sectionBody system .plants)).seeking = some .procedures := by
    rw [seeking]
    cases (movesInOrder orderedMoves system.plants).find? (·.enabled scan.values) with
    | none => exact .inl rfl
    | some move => exact .inr rfl
  refine ⟨?_, ?_, pass_ready rfl ready aimed⟩
  · rw [pass_eq_land rfl aimed]
    exact values
  · rw [pass_eq_land rfl aimed]
    exact fired

/-- At most one plant move fires in a scan, and it is the first enabled one. Take the moves of all
plants in the order of their rungs. If none is enabled when the scan arrives at the plants, the
section changes nothing. Otherwise exactly the first one fires, and the valuation that reaches the
procedures has its writes in order: the petition of a commanded event, the event, the destination
and, last, the origin. The order of the moves is any that satisfies `SensedFirst`. -/
theorem first_enabled_move_fires (system : ControlSystem) (order : Automaton → List Transition)
    (ordered : ∀ plant ∈ system.plants, SensedFirst plant.moves (order plant)) (scan : Scan)
    (ready : scan.ReadyAt (sectionStart system .plants + 1)) :
    let after := (generate system).pass .plants .procedures scan
    after.ReadyAt (sectionStart system .procedures + 1) ∧
      match (movesInOrder order system.plants).find? (·.enabled scan.values) with
      | none => after.values = scan.values ∧ firedMoves system after = []
      | some move =>
        after.values = scan.values.writeAll move.writes ∧ firedMoves system after = [move] := by
  obtain ⟨values, fired, arrived⟩ := pass_plants system scan ready
  refine ⟨arrived, ?_⟩
  rw [movesInOrder_eq ordered]
  cases found : (movesInOrder orderedMoves system.plants).find? (·.enabled scan.values) with
  | none =>
    rw [found] at values fired
    exact ⟨values, fired⟩
  | some move =>
    rw [found] at values fired
    exact ⟨values, fired⟩

namespace SmallFactory

/-- What a busy machine reports comes before the command to an idle one: the names of the states
decide, against the order of the model. -/
theorem machine_sensedFirst (name start finish : String) :
    SensedFirst (machine name start finish).moves (machine name start finish).moves.reverse := by
  have less : ("busy" : String) < "idle" := by decide
  apply SensedFirst.swap
  · simp [plantPrecedes, less]
  · simp [rungKey]

theorem plants_sensedFirst :
    ∀ plant ∈ system.plants, SensedFirst plant.moves plant.moves.reverse := by
  intro plant member
  simp only [system, List.mem_cons, List.not_mem_nil, or_false] at member
  rcases member with rfl | rfl
  · exact machine_sensedFirst "M1" "a1" "b1"
  · exact machine_sensedFirst "M2" "a2" "b2"

/-- The start of the second machine. -/
def unload : PlantMove :=
  ⟨machine "M2" "a2" "b2", ⟨⟨"idle", .marked⟩, ⟨"a2", .controllable⟩, ⟨"busy", .unmarked⟩⟩⟩

/-- Both machines are idle and the first one must not start. -/
def flagged : Valuation := fun name => name ∈ ["M1_idle", "M2_idle", "d_a1"]

end SmallFactory

/-- With the first machine forbidden to start, the second one starts. -/
theorem second_machine_fires :
    let after := (generate SmallFactory.system).pass .plants .procedures
      (Scan.opened SmallFactory.flagged)
    firedMoves SmallFactory.system after = [SmallFactory.unload] ∧
      after.values = SmallFactory.flagged.writeAll
        [("p_a2", true), ("a2", true), ("M2_busy", true), ("M2_idle", false)] := by
  have found : (movesInOrder (fun plant => plant.moves.reverse) SmallFactory.system.plants).find?
      (·.enabled SmallFactory.flagged) = some SmallFactory.unload := by decide
  obtain ⟨-, fires⟩ := first_enabled_move_fires SmallFactory.system
    (fun plant => plant.moves.reverse) SmallFactory.plants_sensedFirst
    (Scan.opened SmallFactory.flagged) (Scan.opened_readyAt _ (rail_lt_sectionStart _ _))
  have values : (Scan.opened SmallFactory.flagged).values = SmallFactory.flagged := rfl
  rw [values, found] at fires
  exact ⟨fires.2, fires.1⟩

end SupervisoryLadder.Ladder
