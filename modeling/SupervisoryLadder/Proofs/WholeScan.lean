import SupervisoryLadder.Proofs.DisablementFlags
import SupervisoryLadder.Proofs.PlantStep
import SupervisoryLadder.Proofs.SupervisorStep

/-!
# A whole scan as a function of the valuation

The passages of the sections compose to a scan: the supervisors follow the flags of the last scan,
the disablement flags are recomputed, the first enabled plant move is made, and the start request
enters the initial states. Every statement here holds for every system and every valuation; what the
names of a system have to do with each other is the matter of those who use them.
-/

namespace SupervisoryLadder.Ladder

/-- A scan arrives at every label ready for what comes behind it. -/
theorem arrive_ready (system : ControlSystem) (place : Section) (values : Valuation) :
    ((generate system).arrive place values).ReadyAt (sectionStart system place + 1) := by
  have first := (arrive_supervisors system values).2
  have second := (pass_supervisors system _ first).2
  rw [← arrive_next system rfl] at second
  have third := (pass_disablement system _ second).1
  rw [← arrive_next system rfl] at third
  have fourth := (pass_plants system _ third).2.2
  rw [← arrive_next system rfl] at fourth
  cases place with
  | supervisors => exact first
  | disablement => exact second
  | plants => exact third
  | procedures => exact fourth

/-- What has fired in a whole scan has fired when the scan arrives at the procedures, since no
element behind that label is a guard. -/
theorem firedMoves_scan (system : ControlSystem) (values : Valuation) :
    firedMoves system ((Scan.start values).run (generate system).elements) =
      firedMoves system ((generate system).arrive .procedures values) := by
  rw [run_generate, firedMoves, firedMoves]
  refine congrArg (List.map Prod.snd) (List.filter_congr fun guard member => ?_)
  have before : guard.1 < sectionStart system .procedures := by
    have bound := guardIds_lt member
    have next := sectionStart_next system .plants .procedures rfl
    rw [sectionSize, sectionRungs_plants] at next
    omega
  exact Scan.run_power fun element present same => by
    have := Rung.id_layout present
    omega

/-- In a whole scan fires the first move that is enabled when the scan arrives at the plants. -/
theorem firedMoves_eq (system : ControlSystem) (values : Valuation) :
    firedMoves system ((Scan.start values).run (generate system).elements) =
      ((movesInOrder orderedMoves system.plants).find?
        (·.enabled ((generate system).arrive .plants values).values)).toList := by
  have fired := (pass_plants system _ (arrive_ready system .plants values)).2.1
  rwa [← arrive_next system rfl, ← firedMoves_scan] at fired

/-- At the disablement label the supervisors have followed the flags, and nothing else has
changed. -/
theorem arrive_disablement (system : ControlSystem) (values : Valuation) :
    ((generate system).arrive .disablement values).values =
      followAll system.supervisors values := by
  obtain ⟨opened, ready⟩ := arrive_supervisors system values
  have passed := (pass_supervisors system _ ready).1
  rwa [← arrive_next system rfl, opened] at passed

/-- At the plants' label the disablement flags have been recomputed from the supervisors' bits. -/
theorem arrive_plants (system : ControlSystem) (values : Valuation) :
    (∀ event ∈ systemEvents system, event.isControllable = true →
      ((generate system).arrive .plants values).values (Signal.disablement event).variableName =
        ((Disablement.ofSupervisors system.supervisors).statesDisabling event.name).any
          (followAll system.supervisors values)) ∧
      ∀ name, (∀ event ∈ systemEvents system, event.isControllable = true →
          name ≠ (Signal.disablement event).variableName) →
        ((generate system).arrive .plants values).values name =
          followAll system.supervisors values name := by
  have passed := (pass_disablement system _ (arrive_ready system .disablement values)).2
  rwa [← arrive_next system rfl, arrive_disablement] at passed

/-- At the label of the procedures the first enabled move has been made. -/
theorem arrive_procedures (system : ControlSystem) (values : Valuation) :
    ((generate system).arrive .procedures values).values =
      ((movesInOrder orderedMoves system.plants).find?
        (·.enabled ((generate system).arrive .plants values).values)).elim
          ((generate system).arrive .plants values).values
          fun move => ((generate system).arrive .plants values).values.writeAll move.writes := by
  have passed := (pass_plants system _ (arrive_ready system .plants values)).1
  rwa [← arrive_next system rfl] at passed

/-- At the end of the scan the initial states have been entered, if this was requested. -/
theorem scan_generate (system : ControlSystem) (values : Valuation) :
    (generate system).scan values = Rung.enterStates (initialSignals system)
      ((generate system).arrive .procedures values).values := by
  rw [Program.scan, run_generate]
  obtain ⟨entered, -⟩ := Rung.layout_run [initialSignals system] Rung.start Rung.enterStates
    (fun signals _ => Rung.start_computes signals) _ _ (arrive_ready system .procedures values)
  exact entered

end SupervisoryLadder.Ladder
