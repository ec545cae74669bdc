import SupervisoryLadder.Files.Machine
import SupervisoryLadder.Proofs.StoreWalk

/-!
# Staging files

A staging file is made where nothing was. Every request on it changes its content or its mode, or
removes it and gives back the store, or moves it to the target that the path had without it, and a
refused request changes nothing.

The name of a staging file is new in its directory, and nothing else is known of it. So a path that
led nowhere may lead to the staging file once that is made, and is then told the mode of the staging
file. A path that led to something with a mode is told that mode as before.
-/

namespace SupervisoryLadder.Files.Machine

/-- The machine with a staging file at a location. -/
def staged (machine : Machine) (location : Location) (content : ByteArray) (mode : Nat) : Machine :=
  { machine with
    store := machine.store.set location (.file content mode)
    staging := some location }

/-! ## Making a staging file -/

/-- The staging file of a path is made at a location. -/
def Stages (machine : Machine) (path : String) (location : Location) : Prop :=
  machine.createStaging path = .ok (location, (machine.staged location ByteArray.empty 0o600).store)

/-- A staging file is made in the directory of its path, if files may be made there, and under the
drawn name, if a file may have it and it is new there. -/
theorem createStaging_eq_ok_iff {machine : Machine} {path : String} {location : Location}
    {store : Store} :
    machine.createStaging path = .ok (location, store) ↔
      Store.checkPath (machine.stagingPath path) = .ok () ∧
      (machine.stagingName.utf8ByteSize ≤ nameLimit ∧ machine.stagingName ≠ "." ∧
        machine.stagingName ≠ "..") ∧
      (∃ directory, location = directory ++ [machine.stagingName] ∧
        machine.store.locate machine.working (Path.directory path ++ "/.") = .ok directory ∧
        machine.store.directoryAllows mayWrite directory = true) ∧
      machine.store.get? location = none ∧
      store = (machine.staged location ByteArray.empty 0o600).store := by
  unfold createStaging
  simp only [bind_eq_ok, Store.addNamed_ok_iff]
  constructor
  · rintro ⟨_, checked, directory, found, _, ⟨fits, free, allowed, rfl⟩, same⟩
    cases same
    exact ⟨checked, fits, ⟨directory, rfl, found, allowed⟩, free, rfl⟩
  · rintro ⟨checked, fits, ⟨directory, rfl, found, allowed⟩, free, rfl⟩
    exact ⟨(), checked, directory, found, _, ⟨fits, free, allowed, rfl⟩, rfl⟩

theorem Stages.free {machine : Machine} {path : String} {location : Location}
    (stages : machine.Stages path location) : machine.store.get? location = none := by
  obtain ⟨-, -, -, free, -⟩ := createStaging_eq_ok_iff.mp stages
  exact free

theorem Stages.unique {machine : Machine} {path : String} {location other : Location}
    (stages : machine.Stages path location) (again : machine.Stages path other) :
    location = other :=
  congrArg Prod.fst (Except.ok.inj (stages.symm.trans again))

theorem Stages.perform {machine : Machine} {path : String} {location : Location}
    (stages : machine.Stages path location)
    (granted : machine.refuses (.createStaging path) = none) :
    machine.perform (.createStaging path) =
      (.ok (), machine.staged location ByteArray.empty 0o600) := by
  simp only [Machine.perform, granted]
  rw [stages]
  rfl

/-- A staging file is made, or nothing changes. -/
theorem perform_createStaging (machine : Machine) (path : String) :
    (∃ reason, machine.perform (.createStaging path) = (.error reason, machine)) ∨
      ∃ location, machine.Stages path location ∧ machine.perform (.createStaging path) =
        (.ok (), machine.staged location ByteArray.empty 0o600) := by
  simp only [perform]
  cases machine.refuses (.createStaging path) with
  | some reason => exact .inl ⟨_, rfl⟩
  | none =>
    cases made : machine.createStaging path with
    | error reason => exact .inl ⟨_, rfl⟩
    | ok found =>
      obtain ⟨location, store⟩ := found
      obtain ⟨-, -, -, -, rfl⟩ := createStaging_eq_ok_iff.mp made
      exact .inr ⟨location, made, rfl⟩

/-- A staging file is made when the request is granted and there is a place for the file. -/
theorem createStaging_ok_iff (machine : Machine) (path : String) :
    (machine.perform (.createStaging path)).1 = .ok () ↔
      machine.refuses (.createStaging path) = none ∧ ∃ location, machine.Stages path location := by
  constructor
  · intro created
    rcases machine.perform_createStaging path with ⟨reason, refused⟩ | ⟨location, stages, -⟩
    · rw [refused] at created
      cases created
    · refine ⟨?_, location, stages⟩
      cases refused : machine.refuses (.createStaging path) with
      | none => rfl
      | some reason => simp [perform, refused] at created
  · rintro ⟨granted, location, stages⟩
    rw [stages.perform granted]

/-! ## Requests on a staging file -/

/-- The mode that a path is told to have, or that of a new file when it cannot be told. -/
def fileMode (machine : Machine) (path : String) : Nat :=
  match (machine.perform (.modeOf path)).1 with
  | .ok mode => mode
  | .error _ => newFileMode

theorem perform_modeOf (machine : Machine) (path : String) :
    machine.perform (.modeOf path) = ((machine.perform (.modeOf path)).1, machine) := by
  simp only [perform]
  cases machine.refuses (.modeOf path) <;> rfl

theorem modeOf_ok_iff {machine : Machine} {path : String} {mode : Nat} :
    (machine.perform (.modeOf path)).1 = .ok mode ↔ machine.refuses (.modeOf path) = none ∧
      machine.store.modeOf machine.working path = .ok mode := by
  simp only [perform]
  cases machine.refuses (.modeOf path) <;> simp

/-- Machines that look the same to walks tell the same mode. -/
theorem fileMode_of_alike {left right : Machine} (alike : Store.Alike left.store right.store)
    (working : left.working = right.working) (refuses : left.refuses = right.refuses)
    (path : String) : left.fileMode path = right.fileMode path := by
  simp only [fileMode, perform, refuses, working, alike.modeOf]
  cases right.refuses (.modeOf path) <;> rfl

section Staged

variable {machine : Machine} {location : Location} (free : machine.store.get? location = none)
  (content : ByteArray) (mode : Nat)

/-- To walks the machine has one file more. -/
theorem added_staged (free : machine.store.get? location = none) :
    Store.Added location machine.store (machine.staged location content mode).store :=
  Store.added_set free content mode

include free

theorem changeStaging_staged (change : ByteArray → Nat → Entry) :
    (machine.staged location content mode).changeStaging change = { machine with
      store := machine.store.set location (change content mode)
      staging := some location } := by
  have found := machine.store.get?_set_self (Store.ne_nil_of_free free) (.file content mode)
  simp only [changeStaging, staged, found, Store.set_set]

theorem perform_writeStaging (text : String) :
    (machine.staged location content mode).perform (.writeStaging text) =
      match machine.refuses (.writeStaging text) with
      | some reason => (.error reason, machine.staged location content mode)
      | none => (.ok (), machine.staged location text.toUTF8 mode) := by
  simp only [perform, changeStaging_staged free]
  cases refused : machine.refuses (.writeStaging text) <;> simp [staged, refused]

theorem perform_setStagingMode (next : Nat) :
    (machine.staged location content mode).perform (.setStagingMode next) =
      match machine.refuses (.setStagingMode next) with
      | some reason => (.error reason, machine.staged location content mode)
      | none => (.ok (), machine.staged location content next) := by
  simp only [perform, changeStaging_staged free]
  cases refused : machine.refuses (.setStagingMode next) <;> simp [staged, refused]

omit free in
theorem perform_syncStaging (machine : Machine) (location : Location) (content : ByteArray)
    (mode : Nat) :
    (machine.staged location content mode).perform .syncStaging =
      match machine.refuses .syncStaging with
      | some reason => (.error reason, machine.staged location content mode)
      | none => (.ok (), machine.staged location content mode) := rfl

/-- Removing the staging file gives back the store. -/
theorem perform_dropStaging :
    (machine.staged location content mode).perform .dropStaging =
      ((), { machine with staging := none }) := by
  simp only [perform, dropStaging, staged, Store.erase_set free]

omit free in
/-- The machine with a file moved to a location. A log file that is replaced is lost for the log. -/
def replaced (machine : Machine) (target : Location) (content : ByteArray) (mode : Nat) : Machine :=
  { machine with
    store := machine.store.set target (.file content mode)
    staging := none
    sink := match machine.sink with
      | .file limit place => if place = target then .nowhere else .file limit place
      | other => other }

omit free in
/-- The log goes on where it went, unless that was the target. -/
theorem replaced_sink {target place : Location} {limit : Severity}
    (logs : (machine.replaced target content mode).sink = .file limit place) :
    machine.sink = .file limit place ∧ place ≠ target := by
  unfold replaced at logs
  cases sink : machine.sink with
  | nowhere => simp [sink] at logs
  | console _ => simp [sink] at logs
  | file _ _ =>
    simp only [sink] at logs
    split at logs
    · cases logs
    · next apart =>
      cases logs
      exact ⟨rfl, apart⟩

/-- The staging file moves to the target of the path. -/
theorem perform_renameStaging (path : String) :
    let before := machine.staged location content mode
    before.perform (.renameStaging path) =
      match machine.refuses (.renameStaging path),
        before.store.locateTarget machine.working path with
      | some reason, _ => (.error reason, before)
      | none, .error reason => (.error reason, before)
      | none, .ok target => (.ok (), machine.replaced target content mode) := by
  intro before
  have found := machine.store.get?_set_self (Store.ne_nil_of_free free) (.file content mode)
  have moved : before.renameStaging path =
      (before.store.locateTarget machine.working path).map fun target =>
        machine.replaced target content mode := by
    unfold renameStaging
    show (before.store.locateTarget machine.working path >>= _) = _
    cases before.store.locateTarget machine.working path with
    | error reason => rfl
    | ok target =>
      cases sink : machine.sink <;>
        simp only [bind, Except.bind, pure, Except.pure, Except.map, before, staged, replaced,
          found, sink, Store.erase_set free]
  simp only [perform, moved]
  cases refused : machine.refuses (.renameStaging path) with
  | some reason => simp [before, staged, refused]
  | none =>
    cases before.store.locateTarget machine.working path with
    | error reason => simp [before, staged, refused, Except.map]
    | ok target => simp [before, staged, refused, Except.map]

end Staged

/-! ## The mode of a document -/

/-- The path leads to the staging file that is made for it. -/
def MeetsStaging (machine : Machine) (path : String) : Prop :=
  ∃ location, machine.Stages path location ∧
    (machine.staged location ByteArray.empty 0o600).store.locate machine.working path = .ok location

/-- The mode that a document gets at a path: the one that the path is told to have when its staging
file is made. -/
def documentMode (machine : Machine) (path : String) : Nat :=
  (machine.perform (.createStaging path)).2.fileMode path

/-- A document takes over the mode that the path was told to have. -/
theorem documentMode_of_ok {machine : Machine} {path : String} {mode : Nat}
    (told : (machine.perform (.modeOf path)).1 = .ok mode) : machine.documentMode path = mode := by
  unfold documentMode
  rcases machine.perform_createStaging path with ⟨fault, refused⟩ | ⟨location, stages, created⟩
  · rw [refused, fileMode, told]
  · obtain ⟨granted, found⟩ := modeOf_ok_iff.mp told
    have added := added_staged ByteArray.empty 0o600 stages.free
    have toldStaged : ((machine.staged location ByteArray.empty 0o600).perform (.modeOf path)).1 =
        .ok mode := modeOf_ok_iff.mpr ⟨granted, added.modeOf_of_ok found⟩
    rw [created, fileMode, toldStaged]

/-- Without such a mode a document gets that of a new file, unless the path leads to the staging
file. -/
theorem documentMode_of_error {machine : Machine} {path : String} {reason : SystemError}
    (untold : (machine.perform (.modeOf path)).1 = .error reason)
    (unmet : ¬ machine.MeetsStaging path) : machine.documentMode path = newFileMode := by
  unfold documentMode
  rcases machine.perform_createStaging path with ⟨fault, refused⟩ | ⟨location, stages, created⟩
  · rw [refused, fileMode, untold]
  · rw [created, fileMode]
    split
    · next mode told =>
      obtain ⟨granted, found⟩ := modeOf_ok_iff.mp told
      change machine.refuses (.modeOf path) = none at granted
      have missing : machine.store.modeOf machine.working path = .error reason := by
        simpa [perform, granted] using untold
      obtain ⟨other, failed⟩ := (added_staged ByteArray.empty 0o600 stages.free).modeOf_of_error
        missing fun met => unmet ⟨location, stages, met⟩
      cases failed.symm.trans found
    · rfl

/-- What can be said of the mode of a document beforehand. It is the mode that the path is told to
have; and if none is told, that of a new file, unless the path leads to the staging file. -/
structure Inherits (machine : Machine) (path : String) (mode : Nat) : Prop where
  told : ∀ known, (machine.perform (.modeOf path)).1 = .ok known → mode = known
  untold : ∀ reason, (machine.perform (.modeOf path)).1 = .error reason →
    ¬ machine.MeetsStaging path → mode = newFileMode

theorem inherits_documentMode (machine : Machine) (path : String) :
    machine.Inherits path (machine.documentMode path) :=
  ⟨fun _ => documentMode_of_ok, fun _ => documentMode_of_error⟩

end SupervisoryLadder.Files.Machine
