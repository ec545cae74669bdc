import SupervisoryLadder.Files.Publish
import SupervisoryLadder.Proofs.LoggedRuns

/-!
# Publishing in one step

A job that publishes a document either fails and leaves every entry of the store as it was, or
succeeds and puts the whole document at the target of the path, leaving every other entry as it was.
This holds whatever the store is, whichever name is drawn for the staging file and whichever
requests the machine refuses. Only a log file grows by the records that the job logs.

The document has the mode of what the path led to before. If there was nothing, the mode is that of
a new file, with one exception: the mode is asked for when the staging file is already there, and a
path that leads to the staging file is told the mode of that file.
-/

namespace SupervisoryLadder.Files

open Machine

/-! ## Replacing a file -/

/-- A staging file is settled at a target: none of the requests for it is refused. -/
structure Settles (machine : Machine) (path : String) (next : Nat) (target : Location) : Prop where
  setMode : machine.refuses (.setStagingMode next) = none
  sync : machine.refuses .syncStaging = none
  rename : machine.refuses (.renameStaging path) = none
  located : machine.store.locateTarget machine.working path = .ok target

section Staged

variable {machine : Machine} {location : Location} (free : machine.store.get? location = none)
  (path : String) (content : ByteArray) (mode : Nat)
include free

/-- A staging file moves to its target if it can be settled; else it is still there. -/
theorem settleStaging_cases (next : Nat) :
    (∃ reason last, (∀ target, ¬ Settles machine path next target) ∧
      (settleStaging path next).run (machine.staged location content mode) =
        (.error reason, machine.staged location content last)) ∨
      ∃ target, Settles machine path next target ∧
        (settleStaging path next).run (machine.staged location content mode) =
          (.ok (), machine.replaced target content next) := by
  have changed := perform_setStagingMode free content mode next
  have renamed := perform_renameStaging free content next path
  have synced := perform_syncStaging machine location content next
  have targets := (added_staged content next free).locateTarget_ok_iff machine.working path
  unfold settleStaging
  cases setMode : machine.refuses (.setStagingMode next) with
  | some reason =>
    rw [setMode] at changed
    refine .inl ⟨reason, mode, ?_, Job.run_request_bind changed _⟩
    intro target settles
    simp [settles.setMode] at setMode
  | none =>
    rw [setMode] at changed
    rw [Job.run_request_bind changed]
    cases sync : machine.refuses .syncStaging with
    | some reason =>
      rw [sync] at synced
      refine .inl ⟨reason, next, ?_, Job.run_request_bind synced _⟩
      intro target settles
      simp [settles.sync] at sync
    | none =>
      rw [sync] at synced
      dsimp only
      rw [Job.run_request_bind synced]
      dsimp only at renamed
      cases rename : machine.refuses (.renameStaging path) with
      | some reason =>
        rw [rename] at renamed
        refine .inl ⟨reason, next, ?_, renamed⟩
        intro target settles
        simp [settles.rename] at rename
      | none =>
        cases found : (machine.staged location content next).store.locateTarget machine.working
            path with
        | error reason =>
          rw [rename, found] at renamed
          refine .inl ⟨reason, next, ?_, renamed⟩
          intro target settles
          simp [(targets target).mpr settles.located] at found
        | ok target =>
          rw [rename, found] at renamed
          exact .inr ⟨target, ⟨setMode, sync, rename, (targets target).mp found⟩, renamed⟩

/-- Once the text is written, the file is settled with the mode that the path is told to have. -/
theorem run_completeStaging {text : String} (write : machine.refuses (.writeStaging text) = none) :
    (completeStaging text path).run (machine.staged location content mode) =
      (settleStaging path ((machine.staged location content mode).fileMode path)).run
        (machine.staged location text.toUTF8 mode) := by
  have written := perform_writeStaging free content mode text
  rw [write] at written
  have sameMode : (machine.staged location content mode).fileMode path =
      (machine.staged location text.toUTF8 mode).fileMode path := by
    have alike : Store.Alike (machine.staged location content mode).store
        (machine.staged location text.toUTF8 mode).store :=
      Store.Alike.set (fun _ => rfl) location _ _ rfl
    exact fileMode_of_alike alike rfl rfl path
  rw [sameMode]
  unfold completeStaging
  rw [Job.run_request_bind written]
  exact Job.run_request_bind ((machine.staged location text.toUTF8 mode).perform_modeOf path) _

end Staged

/-- Everything that putting a text at a path asks for is granted, and the path has the target. -/
structure Permits (machine : Machine) (text path : String) (target : Location) : Prop where
  create : (machine.perform (.createStaging path)).1 = .ok ()
  write : machine.refuses (.writeStaging text) = none
  settles : Settles machine path (machine.documentMode path) target

/-- A failure of the system, and not of the document or of the path's text. -/
def ExportError.isFailure : ExportError → Bool
  | unstaged _ | failed _ => true
  | _ => false

/-- Putting a text at a path either fails and gives back the store, or replaces the target. -/
theorem replaceFile_cases (machine : Machine) (text path : String) :
    (∃ reason staging, reason.isFailure = true ∧ (∀ target, ¬ Permits machine text path target) ∧
      (replaceFile text path).run machine = (.error reason, { machine with staging })) ∨
      ∃ target, Permits machine text path target ∧ (replaceFile text path).run machine =
        (.ok (), machine.replaced target text.toUTF8 (machine.documentMode path)) := by
  have failing {location : Location} (stages : machine.Stages path location)
      (created : machine.perform (.createStaging path) =
        (.ok (), machine.staged location ByteArray.empty 0o600))
      {reason : SystemError} {last : ByteArray} {lastMode : Nat}
      (incomplete : (completeStaging text path).run
        (machine.staged location ByteArray.empty 0o600) =
          (.error reason, machine.staged location last lastMode)) :
      (replaceFile text path).run machine =
        (.error (.failed reason), { machine with staging := none }) := by
    unfold replaceFile
    rw [Job.run_request_bind created]
    dsimp only
    rw [Job.run_bind, incomplete]
    exact Job.run_request_bind (perform_dropStaging stages.free last lastMode) _
  rcases machine.perform_createStaging path with ⟨reason, refused⟩ | ⟨location, stages, created⟩
  · left
    refine ⟨.unstaged reason, machine.staging, rfl, ?_, Job.run_request_bind refused _⟩
    intro target permits
    have granted := permits.create
    rw [refused] at granted
    cases granted
  · have written := perform_writeStaging stages.free ByteArray.empty 0o600 text
    cases write : machine.refuses (.writeStaging text) with
    | some reason =>
      rw [write] at written
      have incomplete : (completeStaging text path).run
          (machine.staged location ByteArray.empty 0o600) =
            (.error reason, machine.staged location ByteArray.empty 0o600) :=
        Job.run_request_bind written _
      refine .inl ⟨.failed reason, none, rfl, ?_, failing stages created incomplete⟩
      intro target permits
      simp [permits.write] at write
    | none =>
      have completed := run_completeStaging stages.free path ByteArray.empty 0o600 write
      have asked : (machine.staged location ByteArray.empty 0o600).fileMode path =
          machine.documentMode path := by rw [documentMode, created]
      rw [asked] at completed
      rcases settleStaging_cases stages.free path text.toUTF8 0o600 (machine.documentMode path) with
        ⟨reason, last, unsettled, ended⟩ | ⟨target, settles, ended⟩
      · left
        refine ⟨.failed reason, none, rfl, ?_, failing stages created (completed.trans ended)⟩
        intro target permits
        exact unsettled target permits.settles
      · right
        refine ⟨target, ⟨by rw [created], write, settles⟩, ?_⟩
        unfold replaceFile
        rw [Job.run_request_bind created]
        dsimp only
        rw [Job.run_bind, completed, ended]
        rfl

theorem permits_iff_of_logged {before after : Machine} (logged : before.Logged after)
    {text path : String} {target : Location} :
    Permits after text path target ↔ Permits before text path target := by
  constructor
  · rintro ⟨create, write, setMode, sync, rename, found⟩
    rw [logged.documentMode] at setMode
    rw [logged.refuses] at write setMode sync rename
    exact ⟨(logged.create_iff path).mp create, write, setMode, sync, rename,
      logged.locateTarget path ▸ found⟩
  · rintro ⟨create, write, setMode, sync, rename, found⟩
    rw [← logged.documentMode] at setMode
    rw [← logged.refuses] at write setMode sync rename
    exact ⟨(logged.create_iff path).mpr create, write, setMode, sync, rename,
      (logged.locateTarget path).trans found⟩

/-! ## Publishing -/

/-- A text is the document at the target of a path, with a mode, and everything else is kept. -/
structure Published (before after : Machine) (text path : String) (target : Location) (mode : Nat) :
    Prop where
  located : before.store.locateTarget before.working path = .ok target
  document : after.store.get? target = some (.file text.toUTF8 mode)
  others : ∀ location, location ≠ target → before.Keeps after location

/-- A file that is replaced between records is published. -/
theorem published_of_replaced {before noted after : Machine} (logged : before.Logged noted)
    {text path : String} {target : Location} {mode : Nat}
    (found : before.store.locateTarget before.working path = .ok target)
    (ended : (noted.replaced target text.toUTF8 mode).Logged after) :
    Published before after text path target mode := by
  refine ⟨found, ?_, ?_⟩
  · have put := noted.store.get?_set_self (Store.locateTarget_ne_nil found)
      (.file text.toUTF8 mode)
    rcases ended.keeps target with same | ⟨limit, _, _, _, logs, _, _⟩
    · exact same.trans put
    · exact absurd rfl (replaced_sink _ _ logs).2
  · intro location apart
    have between : noted.Keeps (noted.replaced target text.toUTF8 mode) location :=
      .inl (Store.get?_set_of_ne noted.store apart _)
    refine ((logged.keeps location).trans between ?_).trans (ended.keeps location) ?_
    · intro limit logs
      rw [← logged.sink, logs]
    · intro limit logs
      rw [← logged.sink, (replaced_sink _ _ logs).1]

/-- What publishing a program comes to: a document that cannot be rendered, a path without a file
name, a failure of the system, or a published document. -/
inductive Outcome (machine : Machine) (program : Ladder.Program) (options : Project.Options)
    (path : String) : Except ExportError Unit × Machine → Prop
  | unrendered {reason : Project.TimestampError}
      (failed : Project.render program options machine.now = .error reason) :
      Outcome machine program options path (.error (.unserializable reason), machine)
  | unnamed {text : String} {after : Machine}
      (rendered : Project.render program options machine.now = .ok text)
      (nameless : Path.fileName? path = none) (logged : machine.Logged after) :
      Outcome machine program options path (.error (.invalidPath path), after)
  | failed {text : String} {reason : ExportError} {after : Machine}
      (rendered : Project.render program options machine.now = .ok text)
      (named : (Path.fileName? path).isSome = true) (failure : reason.isFailure = true)
      (unpermitted : ∀ target, ¬ Permits machine text path target)
      (keeps : ∀ location, machine.Keeps after location) :
      Outcome machine program options path (.error reason, after)
  | published {text : String} {target : Location} {after : Machine}
      (rendered : Project.render program options machine.now = .ok text)
      (named : (Path.fileName? path).isSome = true) (permits : Permits machine text path target)
      (published : Published machine after text path target (machine.documentMode path)) :
      Outcome machine program options path (.ok (), after)

/-- A document that cannot be rendered is not logged. -/
theorem renderRecords_of_error {program : Ladder.Program} {options : Project.Options}
    {now : Project.Timestamp} {reason : Project.TimestampError}
    (failed : Project.render program options now = .error reason) :
    Project.renderRecords program options now = [] := by
  unfold Project.renderRecords
  split
  · rfl
  · next date dated =>
    unfold Project.render at failed
    rw [dated] at failed
    cases failed

/-- Every run comes to one of these. -/
theorem publish_outcome (machine : Machine) (program : Ladder.Program) (options : Project.Options)
    (path : String) :
    Outcome machine program options path ((publish program options path).run machine) := by
  have asked : machine.perform .currentTime = (machine.now, machine) := rfl
  unfold publish
  rw [Job.run_request_bind asked, Job.run_bind, Job.run_log]
  have logged := machine.notes_logged (Project.renderRecords program options machine.now)
  generalize noting :
    (Project.renderRecords program options machine.now).foldl Machine.note machine = noted at logged
  cases rendered : Project.render program options machine.now with
  | error reason =>
    rw [renderRecords_of_error rendered] at noting
    subst noting
    exact .unrendered rendered
  | ok text =>
    cases named : Path.fileName? path with
    | none => exact .unnamed rendered named logged
    | some name =>
      dsimp only
      rw [Job.run_bind]
      rcases replaceFile_cases noted text path with
        ⟨reason, staging, failure, unpermitted, ended⟩ | ⟨target, permits, ended⟩
      · rw [ended]
        refine .failed rendered (by simp [named]) failure ?_ logged.keeps
        intro target permits
        exact unpermitted target ((permits_iff_of_logged logged).mpr permits)
      · rw [ended]
        dsimp only
        rw [Job.run_bind, Job.run_log]
        have permitted := (permits_iff_of_logged logged).mp permits
        refine .published rendered (by simp [named]) permitted ?_
        rw [logged.documentMode]
        exact published_of_replaced logged permitted.settles.located (notes_logged _ _)

/-- What is published on a machine that has logged is published on the machine before. -/
theorem Published.of_logged {before noted after : Machine} (logged : before.Logged noted)
    {text path : String} {target : Location} {mode : Nat}
    (published : Published noted after text path target mode) :
    Published before after text path target mode where
  located := logged.locateTarget path ▸ published.located
  document := published.document
  others location apart := (logged.keeps location).trans (published.others location apart)
    fun _ logs => logged.sink ▸ logs

/-- Reading a file changes nothing. -/
theorem Machine.perform_readText (machine : Machine) (path : String) :
    machine.perform (.readText path) =
      (match machine.refuses (.readText path) with
        | some reason => .error reason
        | none => machine.store.readText machine.working path, machine) := by
  simp only [Machine.perform]
  cases machine.refuses (.readText path) <;> rfl

/-- Loading a model changes nothing but the log, and gives the model of the text that was read. -/
theorem loadModel_cases (machine : Machine) (model : String) :
    machine.Logged ((loadModel model).run machine).2 ∧
      ∀ system, ((loadModel model).run machine).1 = .ok system → ∃ source,
        (machine.note ⟨.debug, "Loading model file " ++ model⟩).store.readText machine.working
          model = .ok source ∧ Model.parse source = .ok system := by
  unfold loadModel
  rw [Job.run_bind, Job.run_log]
  have logged := machine.note_logged ⟨.debug, "Loading model file " ++ model⟩
  dsimp only [List.foldl]
  rw [← logged.working]
  generalize machine.note ⟨.debug, "Loading model file " ++ model⟩ = noted at logged
  rw [Job.run_request_bind (noted.perform_readText model)]
  split
  · refine ⟨logged, ?_⟩
    intro system impossible
    cases impossible
  · next source found =>
    rw [Job.run_bind, Job.run_log]
    refine ⟨logged.trans (notes_logged _ _), fun system parsed => ⟨source, ?_, parsed⟩⟩
    cases refused : noted.refuses (.readText model) with
    | some reason => simp [refused] at found
    | none => simpa [refused] using found

/-- Making the project of a model either fails and keeps every entry, or publishes the document of
the model that was read. -/
theorem generateProject_cases (machine : Machine) (model output : String)
    (options : Project.Options) :
    (∃ reason after, (generateProject model output options).run machine = (.error reason, after) ∧
        ∀ location, machine.Keeps after location) ∨
      ∃ source system text target after,
        (generateProject model output options).run machine = (.ok (), after) ∧
        (machine.note ⟨.debug, "Loading model file " ++ model⟩).store.readText machine.working
          model = .ok source ∧ Model.parse source = .ok system ∧
        Project.render (Ladder.generate system) options machine.now = .ok text ∧
        Published machine after text output target (machine.documentMode output) := by
  obtain ⟨loaded, sourced⟩ := loadModel_cases machine model
  unfold generateProject
  rw [Job.run_bind]
  generalize (loadModel model).run machine = reading at loaded sourced
  obtain ⟨answer, noted⟩ := reading
  cases answer with
  | error reason => exact .inl ⟨_, _, rfl, loaded.keeps⟩
  | ok system =>
    obtain ⟨source, found, parsed⟩ := sourced system rfl
    dsimp only
    rw [Job.run_bind, Job.run_log, Job.run_bind, Job.run_log, Job.run_bind]
    generalize noting : (Ladder.generationRecords system).foldl Machine.note _ = last
    have logged : machine.Logged last := by
      rw [← noting]
      exact (loaded.trans (notes_logged noted _)).trans (notes_logged _ _)
    have outcome := publish_outcome last (Ladder.generate system) options output
    generalize (publish (Ladder.generate system) options output).run last = ended at outcome ⊢
    cases outcome with
    | unrendered failed => exact .inl ⟨_, _, rfl, logged.keeps⟩
    | unnamed _ _ further => exact .inl ⟨_, _, rfl, (logged.trans further).keeps⟩
    | failed _ _ _ _ keeps =>
      refine .inl ⟨_, _, rfl, fun location => ?_⟩
      exact (logged.keeps location).trans (keeps location) fun _ logs => logged.sink ▸ logs
    | published rendered _ _ done =>
      rw [logged.now] at rendered
      rw [logged.documentMode] at done
      exact .inr ⟨source, system, _, _, _, rfl, found, parsed, rendered, done.of_logged logged⟩

namespace Outcome

variable {machine : Machine} {program : Ladder.Program} {options : Project.Options} {path : String}
  {result : Except ExportError Unit × Machine}
  (outcome : Outcome machine program options path result)
include outcome

/-- A failure keeps every entry. -/
theorem keeps_of_error {reason : ExportError} (failed : result.1 = .error reason)
    (location : Location) : machine.Keeps result.2 location := by
  cases outcome with
  | unrendered _ => exact .inl rfl
  | unnamed _ _ logged => exact logged.keeps location
  | failed _ _ _ _ keeps => exact keeps location
  | published _ _ _ _ => cases failed

/-- A success publishes the rendering. -/
theorem published_of_ok (succeeded : result.1 = .ok ()) :
    ∃ text target, Project.render program options machine.now = .ok text ∧
      Published machine result.2 text path target (machine.documentMode path) := by
  cases outcome with
  | published rendered _ _ published => exact ⟨_, _, rendered, published⟩
  | _ => cases succeeded

/-- A run succeeds exactly when there is a text and a file name and everything is permitted. -/
theorem ok_iff :
    result.1 = .ok () ↔ (Path.fileName? path).isSome = true ∧ ∃ text target,
      Project.render program options machine.now = .ok text ∧
        Permits machine text path target := by
  cases outcome with
  | unrendered failed => simp [failed]
  | unnamed _ nameless _ => simp [nameless]
  | failed rendered _ _ unpermitted _ => simp [rendered, unpermitted]
  | published rendered named permits _ =>
    exact ⟨fun _ => ⟨named, _, _, rendered, permits⟩, fun _ => rfl⟩

/-- A document that cannot be rendered is all that is reported, and nothing happens. -/
theorem of_unrendered {reason : Project.TimestampError}
    (unrendered : Project.render program options machine.now = .error reason) :
    result = (.error (.unserializable reason), machine) := by
  cases outcome with
  | unrendered failed =>
    rw [failed] at unrendered
    cases unrendered
    rfl
  | unnamed rendered _ _ => simp [rendered] at unrendered
  | failed rendered _ _ _ _ => simp [rendered] at unrendered
  | published rendered _ _ _ => simp [rendered] at unrendered

/-- A path is reported as invalid exactly when there is a text for it but it has no file name. -/
theorem invalidPath_iff (reported : String) :
    result.1 = .error (.invalidPath reported) ↔
      (∃ text, Project.render program options machine.now = .ok text) ∧
        Path.fileName? path = none ∧ reported = path := by
  cases outcome with
  | unrendered failed => simp [failed]
  | unnamed rendered nameless _ => simp [rendered, nameless, eq_comm]
  | failed _ named failure _ _ =>
    constructor
    · rintro ⟨⟩
      cases failure
    · rintro ⟨-, nameless, -⟩
      simp [nameless] at named
  | published _ named _ _ =>
    constructor
    · nofun
    · rintro ⟨-, nameless, -⟩
      simp [nameless] at named

end Outcome

/-- Publishing is atomic, whatever is in the store, whichever name is drawn for the staging file and
whichever requests are refused. A failure keeps every entry; a success puts the whole rendering at
the target of the path and keeps every other entry. The document has the mode of what the path led
to, or that of a new file when this cannot be told and the path does not lead to the staging file. A
run succeeds exactly when nothing stands against it, a document that cannot be rendered is reported
before the path is looked at, and only a path without a file name is invalid. So a project that is
made of a model file is published whole or not at all. -/
theorem publish_atomic (machine : Machine) (options : Project.Options) (path : String) :
    let mode := machine.documentMode path
    machine.Inherits path mode ∧
    (∀ program, let result := (publish program options path).run machine
      let rendering := Project.render program options machine.now
      (∀ reason, result.1 = .error reason → ∀ location, machine.Keeps result.2 location) ∧
      (result.1 = .ok () → ∃ text target, rendering = .ok text ∧
        Published machine result.2 text path target mode) ∧
      (result.1 = .ok () ↔ (Path.fileName? path).isSome = true ∧ ∃ text target,
        rendering = .ok text ∧ Permits machine text path target) ∧
      (∀ reason, rendering = .error reason →
        result = (.error (.unserializable reason), machine)) ∧
      ∀ reported, result.1 = .error (.invalidPath reported) ↔
        (∃ text, rendering = .ok text) ∧ Path.fileName? path = none ∧ reported = path) ∧
    ∀ model, let result := (generateProject model path options).run machine
      (∀ reason, result.1 = .error reason → ∀ location, machine.Keeps result.2 location) ∧
      (result.1 = .ok () → ∃ source system text target,
        (machine.note ⟨.debug, "Loading model file " ++ model⟩).store.readText machine.working
          model = .ok source ∧ Model.parse source = .ok system ∧
        Project.render (Ladder.generate system) options machine.now = .ok text ∧
        Published machine result.2 text path target mode) := by
  intro mode
  refine ⟨machine.inherits_documentMode path, ?_, ?_⟩
  · intro program result rendering
    have outcome : Outcome machine program options path result :=
      publish_outcome machine program options path
    exact ⟨fun reason failed => outcome.keeps_of_error failed, outcome.published_of_ok,
      outcome.ok_iff, fun reason => outcome.of_unrendered, outcome.invalidPath_iff⟩
  · intro model result
    rcases generateProject_cases machine model path options with
      ⟨reason, after, ended, keeps⟩ | ⟨source, system, text, target, after, ended, done⟩
    · have same : result = (.error reason, after) := ended
      rw [same]
      exact ⟨fun _ _ => keeps, nofun⟩
    · have same : result = (.ok (), after) := ended
      rw [same]
      exact ⟨nofun, fun _ => ⟨source, system, text, target, done⟩⟩

/-- A machine whose root has a file that only its owner and the group may read, and a link to it. -/
def linkedMachine : Machine where
  store := ⟨[(["old"], .file ByteArray.empty 0o640), (["link"], .link "old")]⟩
  working := []
  workingText := "/"
  now := ⟨2024, 3, 1, 12, 30, 0, 0, 0, 0, 0⟩

/-- Its staging files are made in the root. Here and below, walks are evaluated turn by turn: their
recursion does not reduce. -/
theorem linkedMachine_stages {path : String} (beside : Path.directory path = ".") :
    linkedMachine.Stages path [".tmpXXXXXX"] := by
  apply createStaging_eq_ok_iff.mpr
  refine ⟨?_, by decide, ⟨[], rfl, ?_, rfl⟩, rfl, rfl⟩
  · rw [stagingPath, beside]
    rfl
  · rw [beside]
    show linkedMachine.store.follow linkLimit [] [".", "."] = .ok []
    rw [Store.follow_root_dot, Store.follow_root_dot, Store.follow_nil]

/-- Nothing stands against a document in its root. -/
theorem linkedMachine_publishes {path : String} (beside : Path.directory path = ".")
    (named : (Path.fileName? path).isSome = true)
    (located : linkedMachine.store.locateTarget [] path = .ok [path]) :
    (Path.fileName? path).isSome = true ∧ ∃ text target,
      Project.render ⟨[]⟩ {} linkedMachine.now = .ok text ∧
        Permits linkedMachine text path target := by
  have rendered : Project.render ⟨[]⟩ {} linkedMachine.now =
      .ok (Project.documentOf ⟨[]⟩ {} "2024-03-01T12:30:00Z").text := rfl
  have create := (createStaging_ok_iff linkedMachine path).mpr ⟨rfl, _, linkedMachine_stages beside⟩
  exact ⟨named, _, [path], rendered, create, rfl, rfl, rfl, rfl, located⟩

/-- A link is replaced by the document, with the mode of the file that it pointed to, and that file
stays. Under a name that is not taken, the document is a new file. -/
theorem link_replaced_and_new_document :
    let linked := (publish ⟨[]⟩ {} "link").run linkedMachine
    let fresh := (publish ⟨[]⟩ {} "new").run linkedMachine
    (linked.1 = .ok () ∧ (∃ text, linked.2.store.get? ["link"] = some (.file text 0o640)) ∧
      linked.2.store.get? ["old"] = some (.file ByteArray.empty 0o640)) ∧
    fresh.1 = .ok () ∧ ∃ text, fresh.2.store.get? ["new"] = some (.file text newFileMode) := by
  intro linked fresh
  constructor
  · have located : linkedMachine.store.locateTarget [] "link" = .ok ["link"] :=
      linkedMachine.store.locateTarget_bare rfl rfl
    have told : (linkedMachine.perform (.modeOf "link")).1 = .ok 0o640 := by
      apply modeOf_ok_iff.mpr
      refine ⟨rfl, ?_⟩
      show linkedMachine.store.modeOf [] "link" = .ok 0o640
      rw [Store.modeOf_eq, Store.locate_bare _ rfl rfl]
      show (linkedMachine.store.follow 39 [] ["old"]).bind _ = _
      rw [Store.follow_cons]
      show (linkedMachine.store.follow 39 ["old"] []).bind _ = _
      rw [Store.follow_nil]
      rfl
    obtain ⟨inherits, publishes, -⟩ := publish_atomic linkedMachine {} "link"
    obtain ⟨-, published, succeeds, -⟩ := publishes ⟨[]⟩
    have succeeded := succeeds.mpr (linkedMachine_publishes rfl rfl located)
    obtain ⟨text, target, -, found, document, others⟩ := published succeeded
    obtain rfl := Except.ok.inj (located.symm.trans found)
    rw [inherits.told _ told] at document
    refine ⟨succeeded, ⟨_, document⟩, ?_⟩
    rcases others ["old"] (by decide) with same | ⟨_, _, _, _, logs, _⟩
    · exact same
    · cases logs
  · have located : linkedMachine.store.locateTarget [] "new" = .ok ["new"] :=
      linkedMachine.store.locateTarget_bare rfl rfl
    have untold : (linkedMachine.perform (.modeOf "new")).1 = .error .noEntry := by
      show linkedMachine.store.modeOf [] "new" = .error .noEntry
      rw [Store.modeOf_eq, Store.locate_bare _ rfl rfl]
      rfl
    have unmet : ¬ linkedMachine.MeetsStaging "new" := by
      rintro ⟨location, stages, met⟩
      obtain rfl := stages.unique (linkedMachine_stages rfl)
      change Store.locate _ [] "new" = _ at met
      rw [Store.locate_bare _ rfl rfl] at met
      cases met
    obtain ⟨inherits, publishes, -⟩ := publish_atomic linkedMachine {} "new"
    obtain ⟨-, published, succeeds, -⟩ := publishes ⟨[]⟩
    have succeeded := succeeds.mpr (linkedMachine_publishes rfl rfl located)
    obtain ⟨text, target, -, found, document, -⟩ := published succeeded
    obtain rfl := Except.ok.inj (located.symm.trans found)
    rw [inherits.untold _ untold unmet] at document
    exact ⟨succeeded, _, document⟩

/-- A machine that logs to a file in its root. -/
def loggingMachine : Machine where
  store := ⟨[(["run.log"], .file ByteArray.empty 0o644)]⟩
  working := []
  workingText := "/"
  now := ⟨2024, 3, 1, 12, 30, 0, 0, 0, 0, 0⟩
  sink := .file .debug ["run.log"]

/-- Two things that could be expected of an atomic replacement do not hold. A path that spells the
drawn name leads to the staging file when its mode is asked for, so that a new document there stays
closed to everyone but its owner. And a run that fails has grown the log file. -/
theorem private_document_and_grown_log :
    let drawn := (publish ⟨[]⟩ {} ".tmpXXXXXX").run linkedMachine
    let failed := (publish ⟨[]⟩ {} "..").run loggingMachine
    (drawn.1 = .ok () ∧ (linkedMachine.perform (.modeOf ".tmpXXXXXX")).1 = .error .noEntry ∧
      (∃ text, drawn.2.store.get? [".tmpXXXXXX"] = some (.file text 0o600)) ∧
      newFileMode ≠ 0o600) ∧
    failed.1 = .error (.invalidPath "..") ∧
      failed.2.store.get? ["run.log"] ≠ loggingMachine.store.get? ["run.log"] := by
  intro drawn failed
  constructor
  · have located : linkedMachine.store.locateTarget [] ".tmpXXXXXX" = .ok [".tmpXXXXXX"] :=
      linkedMachine.store.locateTarget_bare rfl rfl
    have stages : linkedMachine.Stages ".tmpXXXXXX" [".tmpXXXXXX"] := linkedMachine_stages rfl
    have created := stages.perform rfl
    have untold : (linkedMachine.perform (.modeOf ".tmpXXXXXX")).1 = .error .noEntry := by
      show linkedMachine.store.modeOf [] ".tmpXXXXXX" = .error .noEntry
      rw [Store.modeOf_eq, Store.locate_bare _ rfl rfl]
      rfl
    have mode : linkedMachine.documentMode ".tmpXXXXXX" = 0o600 := by
      rw [documentMode, created]
      have told : ((linkedMachine.staged [".tmpXXXXXX"] ByteArray.empty 0o600).perform
          (.modeOf ".tmpXXXXXX")).1 = .ok 0o600 := by
        apply modeOf_ok_iff.mpr
        refine ⟨rfl, ?_⟩
        show Store.modeOf _ [] ".tmpXXXXXX" = .ok 0o600
        rw [Store.modeOf_eq, Store.locate_bare _ rfl rfl]
        rfl
      rw [fileMode, told]
    have outcome := publish_outcome linkedMachine ⟨[]⟩ {} ".tmpXXXXXX"
    have succeeded := outcome.ok_iff.mpr (linkedMachine_publishes rfl rfl located)
    obtain ⟨text, target, -, found, document, -⟩ := outcome.published_of_ok succeeded
    obtain rfl := Except.ok.inj (located.symm.trans found)
    rw [mode] at document
    exact ⟨succeeded, untold, ⟨_, document⟩, by decide⟩
  · refine ⟨rfl, ?_⟩
    let record : Record :=
      ⟨.debug, "Project ultrades.project declares 0 variables and 0 ladder elements"⟩
    have grown : failed.2.store.get? ["run.log"] =
        some (.file (ByteArray.empty ++ (record.line "").toUTF8) 0o644) := rfl
    rw [grown]
    intro same
    have sizes := congrArg ByteArray.size (Entry.file.inj (Option.some.inj same)).1
    revert sizes
    decide +kernel

end SupervisoryLadder.Files
