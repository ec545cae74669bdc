import SupervisoryLadder.Proofs.Execution

/-!
# Commands stay latched

A plant's move sets the variable of its event and, if the event is commanded, its petition. Both
coils latch, and no rung resets them: the supervisors and the start request write bits, and the
disablement section writes flags of its own. So a scan only ever adds announcements. Along a run in
which the environment writes nothing but the start request and the events that are sensed, the
petition of a controllable event tells whether the event was ever commanded, not whether it was
commanded in the last scan, and every later scan shows the supervisors the same occurrence again.
-/

namespace SupervisoryLadder.Ladder

/-- The plant moves that fire in the scan of a valuation. -/
def firedIn (system : ControlSystem) (values : Valuation) : List PlantMove :=
  firedMoves system ((Scan.start values).run (generate system).elements)

/-- A move that fires is on an event of the system. -/
theorem trigger_mem_of_fired {system : ControlSystem} {values : Valuation} {move : PlantMove}
    (fired : move ∈ firedIn system values) :
    move.transition.trigger ∈ systemEvents system := by
  rw [firedIn, firedMoves_eq, Option.mem_toList] at fired
  obtain ⟨member, moves⟩ := mem_movesInOrder.mp (List.mem_of_find?_eq_some fired)
  exact trigger_mem_systemEvents member moves

section Distinct

variable {system : ControlSystem} (distinct : DistinctSignals system)
include distinct

/-- The start request enters states, so it leaves the variables of events and commands alone. -/
theorem enterStates_of_flag (values : Valuation) {name : String}
    (flag : name ∈ occurrenceNames system ∨ name ∈ commandNames system) :
    Rung.enterStates (initialSignals system) values name = values name := by
  rw [Rung.enterStates]
  split
  · rw [initialSignals_bits]
    refine Valuation.writeAll_of_not_mem values fun entry written => ?_
    obtain ⟨bit, entered, rfl⟩ := List.mem_map.mp written
    obtain ⟨component, member, rfl⟩ := List.mem_map.mp entered
    have listed := mem_stateBits member (Component.bit_mem component.automaton.initial_mem)
    exact (distinct.bit_ne listed flag).symm
  · rfl

/-- What a scan does to the variable of an event or of a command that is no disablement flag: it is
true afterwards if it was true before or announces a move that fires. -/
theorem scan_flag_iff (values : Valuation) {name : String}
    (flag : name ∈ occurrenceNames system ∨ name ∈ commandNames system)
    (unflagged : ∀ event ∈ systemEvents system, event.isControllable = true →
      name ≠ (Signal.disablement event).variableName) :
    (generate system).scan values name = true ↔
      values name = true ∨ ∃ move ∈ firedIn system values, name ∈ move.announced := by
  have standing := arrive_plants_of_flag distinct values flag unflagged
  rw [scan_generate, enterStates_of_flag distinct _ flag, arrive_procedures, firedIn, firedMoves_eq]
  cases found : (movesInOrder orderedMoves system.plants).find?
      (·.enabled ((generate system).arrive .plants values).values) with
  | none =>
    rw [Option.elim_none, standing]
    simp
  | some move =>
    obtain ⟨member, moves⟩ := mem_movesInOrder.mp (List.mem_of_find?_eq_some found)
    rw [Option.elim_some, writes_flag_iff distinct _ member moves flag, standing]
    simp

/-- The petition of a controllable event announces the moves on this event only. -/
theorem petition_announced_iff {event : Event} (known : event ∈ systemEvents system)
    (controllable : event.isControllable = true) {move : PlantMove}
    (trigger : move.transition.trigger ∈ systemEvents system) :
    (Signal.petition event).variableName ∈ move.announced ↔ move.transition.trigger = event := by
  rw [Event.eq_iff_of_controllable controllable, PlantMove.announced, List.mem_append,
    List.mem_singleton]
  have notOccurrence : (Signal.petition event).variableName ≠
      (Signal.occurrence move.transition.trigger).variableName :=
    (distinct.occurrence_ne (occurrence_mem trigger) (command_mem known controllable).1).symm
  rw [or_iff_left notOccurrence]
  by_cases commanded : move.transition.trigger.isControllable = true
  · rw [if_pos commanded, List.mem_singleton, Signal.petition_eq_iff]
    constructor
    · exact fun sameName => ⟨commanded, sameName.symm⟩
    · exact fun both => both.2.symm
  · rw [if_neg commanded]
    exact iff_of_false List.not_mem_nil fun both => commanded both.1

/-- The variable of an event announces the moves on events of its name. -/
theorem occurrence_announced_iff {event : Event} (known : event ∈ systemEvents system)
    {move : PlantMove} (trigger : move.transition.trigger ∈ systemEvents system) :
    (Signal.occurrence event).variableName ∈ move.announced ↔
      move.transition.trigger.name = event.name := by
  rw [PlantMove.announced, List.mem_append, List.mem_singleton]
  have notPetition : (Signal.occurrence event).variableName ∉
      if move.transition.trigger.isControllable then
        [(Signal.petition move.transition.trigger).variableName] else [] := by
    split
    · rename_i commanded
      rw [List.mem_singleton]
      exact distinct.occurrence_ne (occurrence_mem known) (command_mem trigger commanded).1
    · exact List.not_mem_nil
  rw [or_iff_right notPetition]
  exact eq_comm

end Distinct

/-- What the environment may write between scans: the start request and the events that it
senses. -/
def Sensed (system : ControlSystem) (name : String) : Prop :=
  name = Signal.start.variableName ∨ ∃ event ∈ systemEvents system,
    event.isControllable = false ∧ name = (Signal.occurrence event).variableName

/-- The valuations before the scans of a run of some length whose environment writes nothing but the
start request and the events that it senses. All other variables are false at first, and later as
the last scan left them; the start request is there in the first scan only. -/
structure IsSensedRun (system : ControlSystem) (length : Nat) (before : Nat → Valuation) :
    Prop where
  cleared : ∀ name, ¬ Sensed system name → before 0 name = false
  requested : before 0 Signal.start.variableName = true
  released : ∀ n, n + 1 < length → before (n + 1) Signal.start.variableName = false
  carried : ∀ n, n + 1 < length → ∀ name, ¬ Sensed system name →
    before (n + 1) name = (generate system).scan (before n) name

/-- An environment that only takes back the start request writes nothing else. -/
theorem undisturbed_isSensedRun (system : ControlSystem) (length : Nat) :
    IsSensedRun system length (undisturbed system) where
  cleared _ untouched := beq_false_of_ne fun start => untouched (.inl start)
  requested := beq_self_eq_true _
  released _ _ := Valuation.write_self _ _ _
  carried _ _ _ untouched := Valuation.write_of_ne _ (fun start => untouched (.inl start)) _

/-- A plant has made a move on the event in this scan of the run or in an earlier one. -/
def FiredBy (system : ControlSystem) (before : Nat → Valuation) (n : Nat) (event : Event) : Prop :=
  ∃ earlier ≤ n, ∃ move ∈ firedIn system (before earlier), move.transition.trigger = event

section Runs

variable {system : ControlSystem} {length : Nat} {before : Nat → Valuation}

/-- A variable that announces moves and that the environment does not write is true after a scan
exactly when it announces a move of this or an earlier scan. -/
theorem IsSensedRun.announced_iff (run : IsSensedRun system length before)
    (distinct : DistinctSignals system) {name : String}
    (flag : name ∈ occurrenceNames system ∨ name ∈ commandNames system)
    (unflagged : ∀ event ∈ systemEvents system, event.isControllable = true →
      name ≠ (Signal.disablement event).variableName)
    (untouched : ¬ Sensed system name) {n : Nat} (inside : n < length) :
    (generate system).scan (before n) name = true ↔
      ∃ earlier ≤ n, ∃ move ∈ firedIn system (before earlier), name ∈ move.announced := by
  induction n with
  | zero =>
    rw [scan_flag_iff distinct _ flag unflagged, run.cleared name untouched,
      or_iff_right Bool.false_ne_true]
    simp only [Nat.le_zero, exists_eq_left]
  | succ n inductionHypothesis =>
    rw [scan_flag_iff distinct _ flag unflagged, run.carried n inside name untouched,
      inductionHypothesis (Nat.lt_of_succ_lt inside)]
    constructor
    · rintro (⟨earlier, bound, fired⟩ | fired)
      · exact ⟨earlier, Nat.le_succ_of_le bound, fired⟩
      · exact ⟨n + 1, Nat.le_refl _, fired⟩
    · rintro ⟨earlier, bound, fired⟩
      rcases Nat.le_succ_iff.mp bound with passed | last
      · exact .inl ⟨earlier, passed, fired⟩
      · subst last
        exact .inr fired

/-- The petition of a controllable event tells whether the event was ever commanded. -/
theorem IsSensedRun.petition_iff (run : IsSensedRun system length before)
    (distinct : DistinctSignals system) {event : Event} (known : event ∈ systemEvents system)
    (controllable : event.isControllable = true) {n : Nat} (inside : n < length) :
    (generate system).scan (before n) (Signal.petition event).variableName = true ↔
      FiredBy system before n event := by
  have commanded := (command_mem known controllable).1
  have untouched : ¬ Sensed system (Signal.petition event).variableName := by
    rintro (start | ⟨other, present, -, same⟩)
    · exact Signal.variableName_ne rfl rfl (by decide) start
    · exact distinct.occurrence_ne (occurrence_mem present) commanded same.symm
  rw [run.announced_iff distinct (.inr commanded)
    (fun _ _ _ => Signal.variableName_ne rfl rfl (by decide)) untouched inside]
  refine exists_congr fun earlier => and_congr_right fun _ => exists_congr fun move => ?_
  exact and_congr_right fun fired =>
    petition_announced_iff distinct known controllable (trigger_mem_of_fired fired)

/-- An event is not sensed when all events of its name are commanded. -/
theorem not_sensed_occurrence (distinct : DistinctSignals system) {event : Event}
    (known : event ∈ systemEvents system)
    (commanded : ∀ other ∈ systemEvents system, other.name = event.name →
      other.isControllable = true) :
    ¬ Sensed system (Signal.occurrence event).variableName := by
  rintro (start | ⟨other, present, sensed, same⟩)
  · exact distinct.occurrence_ne (occurrence_mem known) start_mem start
  · exact Bool.noConfusion (sensed.symm.trans (commanded other present same.symm))

/-- The variable of an event, if all events of its name are commanded, tells whether the event ever
occurred. -/
theorem IsSensedRun.occurrence_iff (run : IsSensedRun system length before)
    (distinct : DistinctSignals system) {event : Event} (known : event ∈ systemEvents system)
    (commanded : ∀ other ∈ systemEvents system, other.name = event.name →
      other.isControllable = true) {n : Nat} (inside : n < length) :
    (generate system).scan (before n) (Signal.occurrence event).variableName = true ↔
      FiredBy system before n event := by
  have occurs := occurrence_mem known
  rw [run.announced_iff distinct (.inl occurs) (fun other present controllable =>
    distinct.occurrence_ne occurs (command_mem present controllable).2)
    (not_sensed_occurrence distinct known commanded) inside]
  refine exists_congr fun earlier => and_congr_right fun _ => exists_congr fun move => ?_
  refine and_congr_right fun fired => ?_
  have trigger := trigger_mem_of_fired fired
  rw [occurrence_announced_iff distinct known trigger,
    Event.eq_iff_of_controllable (commanded event known rfl)]
  exact (and_iff_right_of_imp (commanded _ trigger)).symm

end Runs

/-- Commands are never lost and never taken back. Let different signals of the system have different
variables. After every scan of a run, the petition of a controllable event is true exactly when some
plant has made a move on the event in this scan or in an earlier one. The same holds for the
variable of the event itself, unless an event of its name is sensed; so the supervisors meet every
move on the event in all scans after it. -/
theorem commands_stay_latched (system : ControlSystem) (distinct : DistinctSignals system)
    (length : Nat) (before : Nat → Valuation) (run : IsSensedRun system length before)
    (n : Nat) (inside : n < length) (event : Event) (known : event ∈ systemEvents system)
    (controllable : event.isControllable = true) :
    ((generate system).scan (before n) (Signal.petition event).variableName = true ↔
        FiredBy system before n event) ∧
      ((∀ other ∈ systemEvents system, other.name = event.name → other.isControllable = true) →
        ((generate system).scan (before n) (Signal.occurrence event).variableName = true ↔
          FiredBy system before n event) ∧
        (n + 1 < length → (((generate system).arrive .supervisors (before (n + 1))).values
            (Signal.occurrence event).variableName = true ↔ FiredBy system before n event))) := by
  refine ⟨run.petition_iff distinct known controllable inside, fun commanded => ?_⟩
  have latched := run.occurrence_iff distinct known commanded inside
  refine ⟨latched, fun later => ?_⟩
  rw [(arrive_supervisors system _).1,
    run.carried n later _ (not_sensed_occurrence distinct known commanded)]
  exact latched

namespace Dispenser

/-- The command to give a dose. -/
def dose : Event := ⟨"dose", .controllable⟩

/-- A valve that can give one dose. -/
def valve : Automaton :=
  Automaton.build "V" ⟨"ready", .unmarked⟩ [⟨⟨"ready", .unmarked⟩, dose, ⟨"spent", .unmarked⟩⟩]

/-- A supervisor that counts doses up to two. -/
def counter : Automaton :=
  Automaton.build "C" ⟨"none", .unmarked⟩
    [⟨⟨"one", .unmarked⟩, dose, ⟨"two", .unmarked⟩⟩,
      ⟨⟨"none", .unmarked⟩, dose, ⟨"one", .unmarked⟩⟩]

def system : ControlSystem := ⟨[counter], [valve], []⟩

/-- The move that gives the dose. -/
def give : PlantMove := ⟨valve, ⟨⟨"ready", .unmarked⟩, dose, ⟨"spent", .unmarked⟩⟩⟩

end Dispenser

/-- The dose given in the second scan is still commanded after the fourth, and the supervisors meet
it there. -/
theorem dose_stays_latched :
    DistinctSignals Dispenser.system ∧
      IsSensedRun Dispenser.system 5 (undisturbed Dispenser.system) ∧
      Dispenser.give ∈ firedIn Dispenser.system (undisturbed Dispenser.system 1) ∧
      (generate Dispenser.system).scan (undisturbed Dispenser.system 3) "p_dose" = true ∧
      ((generate Dispenser.system).arrive .supervisors (undisturbed Dispenser.system 4)).values
        "dose" = true := by
  have distinct : DistinctSignals Dispenser.system := by decide +kernel
  have run := undisturbed_isSensedRun Dispenser.system 5
  have fired : Dispenser.give ∈ firedIn Dispenser.system (undisturbed Dispenser.system 1) := by
    decide +kernel
  have given : FiredBy Dispenser.system (undisturbed Dispenser.system) 3 Dispenser.dose :=
    ⟨1, by decide, Dispenser.give, fired, rfl⟩
  obtain ⟨petition, occurrence⟩ := commands_stay_latched Dispenser.system distinct 5 _ run 3
    (by decide) Dispenser.dose (by decide) rfl
  exact ⟨distinct, run, fired, petition.mpr given,
    ((occurrence (by decide)).2 (by decide)).mpr given⟩

/-- One dose is counted twice. It is given in the second scan, and no move fires in the third and
the fourth; but the petition and the event are true after the third as well, and in the fourth the
supervisor counts the second dose. -/
theorem one_dose_counted_twice :
    DistinctSignals Dispenser.system ∧
      IsSensedRun Dispenser.system 4 (undisturbed Dispenser.system) ∧
      firedIn Dispenser.system (undisturbed Dispenser.system 1) = [Dispenser.give] ∧
      firedIn Dispenser.system (undisturbed Dispenser.system 2) = [] ∧
      firedIn Dispenser.system (undisturbed Dispenser.system 3) = [] ∧
      (generate Dispenser.system).scan (undisturbed Dispenser.system 2) "p_dose" = true ∧
      (generate Dispenser.system).scan (undisturbed Dispenser.system 2) "dose" = true ∧
      (generate Dispenser.system).scan (undisturbed Dispenser.system 2) "s00_one" = true ∧
      (generate Dispenser.system).scan (undisturbed Dispenser.system 3) "s00_two" = true := by
  refine ⟨?_, undisturbed_isSensedRun Dispenser.system 4, ?_⟩
  all_goals decide +kernel

end SupervisoryLadder.Ladder
