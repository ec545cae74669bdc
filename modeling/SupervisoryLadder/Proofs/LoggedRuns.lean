import SupervisoryLadder.Files.Job
import SupervisoryLadder.Proofs.Staging

/-!
# Runs that log

A job runs request by request. A record that it logs changes no entry of the store but the log file,
and that one only by a line at its end. So machines that differ by what has been logged look the
same to walks: paths have the same targets, staging files are made at the same places, and documents
get the same modes.
-/

namespace SupervisoryLadder.Files

/-! ## Runs of jobs -/

namespace Job

variable {α β : Type}

theorem run_bind (job : Job α) (next : α → Job β) (machine : Machine) :
    (job >>= next).run machine = (next (job.run machine).1).run (job.run machine).2 := by
  induction job generalizing machine with
  | done value => rfl
  | note record rest inductionHypothesis => exact inductionHypothesis (machine.note record)
  | ask request resume inductionHypothesis =>
    exact inductionHypothesis (machine.perform request).1 (machine.perform request).2

theorem run_request (request : Request) (machine : Machine) :
    (Job.request request).run machine = machine.perform request := rfl

theorem run_request_bind {request : Request} {machine after : Machine} {answer : request.Answer}
    (performed : machine.perform request = (answer, after)) (next : request.Answer → Job β) :
    (Job.request request >>= next).run machine = (next answer).run after := by
  rw [run_bind, run_request, performed]

theorem run_log (records : List Record) (machine : Machine) :
    (Job.log records).run machine = ((), records.foldl Machine.note machine) := by
  induction records generalizing machine with
  | nil => rfl
  | cons record rest inductionHypothesis => exact inductionHypothesis (machine.note record)

end Job

/-! ## Records -/

namespace Machine

/-- What a job that logs leaves of an entry: all of it, or for the log file its beginning and its
mode. -/
def Keeps (before after : Machine) (location : Location) : Prop :=
  after.store.get? location = before.store.get? location ∨
    ∃ limit content mode more, before.sink = .file limit location ∧
      before.store.get? location = some (.file content mode) ∧
      after.store.get? location = some (.file (content ++ more) mode)

theorem Keeps.trans {before middle after : Machine} {location : Location}
    (first : before.Keeps middle location) (second : middle.Keeps after location)
    (sameLog : ∀ limit, middle.sink = .file limit location → before.sink = .file limit location) :
    before.Keeps after location := by
  rcases second with same | ⟨limit, content, mode, more, sink, found, grown⟩
  · rcases first with unchanged | ⟨limit, content, mode, more, sink, found, grown⟩
    · exact .inl (same.trans unchanged)
    · exact .inr ⟨limit, content, mode, more, sink, found, same.trans grown⟩
  · rcases first with unchanged | ⟨_, content', mode', more', _, found', grown'⟩
    · exact .inr ⟨limit, content, mode, more, sameLog limit sink, unchanged ▸ found, grown⟩
    · rw [grown'] at found
      obtain ⟨rfl, rfl⟩ := Entry.file.inj (Option.some.inj found)
      exact .inr ⟨limit, content', mode', more' ++ more, sameLog limit sink, found',
        by rw [grown, ByteArray.append_assoc]⟩

/-- A machine that differs only by what has been logged. -/
structure Logged (before after : Machine) : Prop where
  keeps : ∀ location, before.Keeps after location
  working : after.working = before.working
  workingText : after.workingText = before.workingText
  stagingName : after.stagingName = before.stagingName
  now : after.now = before.now
  refuses : after.refuses = before.refuses
  sink : after.sink = before.sink

theorem Logged.refl (machine : Machine) : machine.Logged machine :=
  ⟨fun _ => .inl rfl, rfl, rfl, rfl, rfl, rfl, rfl⟩

theorem Logged.trans {before middle after : Machine} (first : before.Logged middle)
    (second : middle.Logged after) : before.Logged after where
  keeps location := (first.keeps location).trans (second.keeps location)
    fun _ logs => first.sink ▸ logs
  working := second.working.trans first.working
  workingText := second.workingText.trans first.workingText
  stagingName := second.stagingName.trans first.stagingName
  now := second.now.trans first.now
  refuses := second.refuses.trans first.refuses
  sink := second.sink.trans first.sink

/-- A line that is appended to the log file keeps every entry. -/
theorem appendAt_keeps {before after : Machine} {limit : Severity} {place : Location}
    (logs : before.sink = .file limit place) (text : String)
    (appended : after.store = appendAt before.store place text) (location : Location) :
    before.Keeps after location := by
  rw [Keeps, appended]
  unfold appendAt
  split
  · next content mode found =>
    by_cases same : location = place
    · subst same
      have below : location ≠ [] := by
        rintro rfl
        cases found
      exact .inr ⟨limit, content, mode, text.toUTF8, logs, found, Store.get?_set_self _ below _⟩
    · exact .inl (Store.get?_set_of_ne _ same _)
  · exact .inl rfl

/-- One record. -/
theorem note_logged (machine : Machine) (record : Record) :
    machine.Logged (machine.note record) := by
  unfold note
  split
  · exact ⟨fun _ => .inl rfl, rfl, rfl, rfl, rfl, rfl, rfl⟩
  · split <;> exact ⟨fun _ => .inl rfl, rfl, rfl, rfl, rfl, rfl, rfl⟩
  · next limit place logs =>
    split
    · exact ⟨fun location => appendAt_keeps logs _ rfl location, rfl, rfl, rfl, rfl, rfl, rfl⟩
    · exact ⟨fun _ => .inl rfl, rfl, rfl, rfl, rfl, rfl, rfl⟩

theorem notes_logged (machine : Machine) (records : List Record) :
    machine.Logged (records.foldl note machine) := by
  induction records generalizing machine with
  | nil => exact Logged.refl machine
  | cons record rest inductionHypothesis =>
    exact (machine.note_logged record).trans (inductionHypothesis (machine.note record))

/-- Walks do not notice what is logged. -/
theorem Logged.alike {before after : Machine} (logged : before.Logged after) :
    Store.Alike before.store after.store := by
  intro location
  unfold Store.outline?
  rcases logged.keeps location with same | ⟨limit, content, mode, more, -, found, grown⟩
  · rw [same]
  · rw [found, grown]
    rfl

namespace Logged

variable {before after : Machine} (logged : before.Logged after) (path : String)
include logged

theorem locateTarget :
    after.store.locateTarget after.working path =
      before.store.locateTarget before.working path := by
  rw [logged.working]
  exact (logged.alike.locateTarget before.working path).symm

/-- With staging files at one place the machines still look the same. -/
theorem alike_staged (location : Location) (content : ByteArray) (mode : Nat) :
    Store.Alike (before.staged location content mode).store
      (after.staged location content mode).store :=
  logged.alike.set location _ _ rfl

/-- The same staging files can be made. -/
theorem stages_iff (location : Location) :
    after.Stages path location ↔ before.Stages path location := by
  have staging : after.stagingPath path = before.stagingPath path := by
    rw [stagingPath, stagingPath, logged.workingText, logged.stagingName]
  simp only [Stages, createStaging_eq_ok_iff, logged.stagingName, logged.working, staging,
    logged.alike.locate, logged.alike.directoryAllows, logged.alike.get?_eq_none_iff]

theorem create_iff :
    (after.perform (.createStaging path)).1 = .ok () ↔
      (before.perform (.createStaging path)).1 = .ok () := by
  rw [createStaging_ok_iff, createStaging_ok_iff, logged.refuses]
  simp only [logged.stages_iff]

/-- A document gets the same mode. -/
theorem documentMode : after.documentMode path = before.documentMode path := by
  unfold Machine.documentMode
  rcases before.perform_createStaging path with ⟨reason, refused⟩ | ⟨location, stages, created⟩
  · rcases after.perform_createStaging path with ⟨fault, unmade⟩ | ⟨place, -, made⟩
    · rw [refused, unmade]
      exact (fileMode_of_alike logged.alike logged.working.symm logged.refuses.symm path).symm
    · have both := (logged.create_iff path).mp (congrArg Prod.fst made)
      rw [refused] at both
      cases both
  · have both := (logged.create_iff path).mpr (congrArg Prod.fst created)
    rcases after.perform_createStaging path with ⟨fault, unmade⟩ | ⟨place, placed, made⟩
    · rw [unmade] at both
      cases both
    · obtain rfl := stages.unique ((logged.stages_iff path place).mp placed)
      rw [created, made]
      exact (fileMode_of_alike (logged.alike_staged location _ _) logged.working.symm
        logged.refuses.symm path).symm

end Logged

end Machine

end SupervisoryLadder.Files
