import SupervisoryLadder.Files.Store
import SupervisoryLadder.Proofs.Computations

/-!
# What a walk through a store depends on

A walk looks at entries without reading files: of an entry it sees its outline, which is everything
but the content of a file. Stores with the same outlines everywhere are alike, and a walk ends at
the same place in all of them.

When a file is added where nothing was, a walk can notice it in one way only: it fails without the
file because nothing is there, and with the file it ends at the file or fails because more names
follow. So every walk that succeeds without the file succeeds with it and ends at the same place,
and no walk to a directory notices the file.
-/

namespace SupervisoryLadder.Files

/-- What a walk sees of an entry. -/
inductive Outline where
  | file (mode : Nat)
  | directory (mode : Nat)
  | link (target : String)
  deriving DecidableEq

/-- The outline of an entry. -/
def Entry.outline : Entry → Outline
  | file _ mode => .file mode
  | directory mode => .directory mode
  | link target => .link target

namespace Store

/-- The outline of what is at a location. -/
def outline? (store : Store) (location : Location) : Option Outline :=
  (store.get? location).map Entry.outline

theorem isDirectory_eq (store : Store) (location : Location) :
    store.isDirectory location = match store.outline? location with
      | some (.directory _) => true
      | _ => false := by
  unfold isDirectory outline?
  rcases store.get? location with _ | ⟨_ | _ | _⟩ <;> rfl

theorem directoryAllows_eq (store : Store) (allows : Nat → Bool) (location : Location) :
    store.directoryAllows allows location = match store.outline? location with
      | some (.directory mode) => allows mode
      | _ => false := by
  unfold directoryAllows outline?
  rcases store.get? location with _ | ⟨_ | _ | _⟩ <;> rfl

theorem modeOf_eq (store : Store) (working : Location) (path : String) :
    store.modeOf working path = (store.locate working path).bind fun location =>
      match store.outline? location with
      | some (.file mode) | some (.directory mode) => .ok mode
      | _ => .error .noEntry := by
  unfold modeOf outline?
  cases store.locate working path with
  | error reason => rfl
  | ok location =>
    simp only [bind, Except.bind]
    rcases store.get? location with _ | ⟨_ | _ | _⟩ <;> rfl

/-- What a file may be moved to under a name of a directory. -/
def destination (store : Store) (path : String) (directory : Location) (name : String) :
    Except SystemError Location :=
  if name = "." ∨ name = ".." then .error .busy
  else if nameLimit < name.utf8ByteSize then .error .nameTooLong
  else if Path.endsInSlash path then .error .notDirectory
  else if !store.directoryAllows mayWrite directory then .error .denied
  else if store.isDirectory (directory ++ [name]) then .error .isDirectory
  else .ok (directory ++ [name])

theorem destination_eq {store : Store} {path : String} {directory target : Location} {name : String}
    (admitted : store.destination path directory name = .ok target) :
    target = directory ++ [name] := by
  unfold destination at admitted
  grind

theorem locateTarget_eq (store : Store) (working : Location) (path : String) :
    store.locateTarget working path = if path.toList.contains '\x00' then .error .invalidArgument
      else store.locateName working path >>= fun found =>
        store.destination path found.1 found.2 := by
  unfold locateTarget
  cases path.toList.contains '\x00' with
  | true => rfl
  | false => cases store.locateName working path <;> rfl

/-- The root is no target. -/
theorem locateTarget_ne_nil {store : Store} {working target : Location} {path : String}
    (found : store.locateTarget working path = .ok target) : target ≠ [] := by
  rw [locateTarget_eq] at found
  split at found
  · cases found
  · obtain ⟨last, -, admitted⟩ := bind_eq_ok.mp found
    simp [destination_eq admitted]

/-! ## Changes at one location -/

theorem lookup_filter_of_ne {entries : List (Location × Entry)} {location other : Location}
    (different : other ≠ location) :
    (entries.filter fun known => known.1 != location).lookup other = entries.lookup other := by
  induction entries with
  | nil => rfl
  | cons known rest inductionHypothesis =>
    by_cases removed : known.1 = location
    · rw [List.filter_cons_of_neg (by simp [removed]), inductionHypothesis, List.lookup_cons]
      have apart : (other == known.1) = false := by simp [removed, different]
      rw [apart]
    · rw [List.filter_cons_of_pos (by simp [removed]), List.lookup_cons, List.lookup_cons,
        inductionHypothesis]

theorem get?_set_self (store : Store) {location : Location} (below : location ≠ [])
    (entry : Entry) : (store.set location entry).get? location = some entry := by
  simp [get?, set, below]

theorem get?_set_of_ne (store : Store) {location other : Location} (different : other ≠ location)
    (entry : Entry) : (store.set location entry).get? other = store.get? other := by
  unfold get? set
  split
  · rfl
  · have apart : (other == location) = false := by simp [different]
    rw [List.lookup_cons, apart]
    exact lookup_filter_of_ne different

theorem set_set (store : Store) (location : Location) (first second : Entry) :
    (store.set location first).set location second = store.set location second := by
  simp [set, List.filter_filter]

/-- Nothing is missing at the root. -/
theorem ne_nil_of_free {store : Store} {location : Location} (free : store.get? location = none) :
    location ≠ [] := by
  rintro rfl
  cases free

/-- Removing an entry that was put at a free location gives back the store. -/
theorem erase_set {store : Store} {location : Location} (free : store.get? location = none)
    (entry : Entry) : (store.set location entry).erase location = store := by
  have kept : store.entries.filter (fun known => known.1 != location) = store.entries := by
    rw [get?, if_neg (ne_nil_of_free free), List.lookup_eq_none_iff] at free
    apply List.filter_eq_self.mpr
    intro known member
    exact bne_iff_ne.mpr (bne_iff_ne.mp (free known member)).symm
  simp [set, erase, kept]

/-- An entry is added to a directory that is open to changes, under a name that it may have and that
is new there. -/
theorem addNamed_ok_iff {store added : Store} {directory : Location} {name : String}
    {entry : Entry} :
    store.addNamed directory name entry = .ok added ↔
      (name.utf8ByteSize ≤ nameLimit ∧ name ≠ "." ∧ name ≠ "..") ∧
        store.get? (directory ++ [name]) = none ∧
        store.directoryAllows mayWrite directory = true ∧
        added = store.set (directory ++ [name]) entry := by
  unfold addNamed
  grind

/-! ## Walks -/

/-- Where a name leads: to a place, or along a link. -/
inductive Turn where
  | place (location : Location)
  | detour (target : String)

/-- Where a name leads from a directory. -/
def turn (store : Store) (directory : Location) (name : String) : Except SystemError Turn :=
  if !store.isDirectory directory then .error .notDirectory
  else if name = "" then .ok (.place directory)
  else if !store.directoryAllows maySearch directory then .error .denied
  else if name = "." then .ok (.place directory)
  else if name = ".." then .ok (.place directory.dropLast)
  else if nameLimit < name.utf8ByteSize then .error .nameTooLong
  else
    match store.outline? (directory ++ [name]) with
    | none => .error .noEntry
    | some (.link target) => .ok (.detour target)
    | some _ => .ok (.place (directory ++ [name]))

theorem follow_nil (store : Store) (links : Nat) (directory : Location) :
    store.follow links directory [] = .ok directory := by
  rw [follow]

/-- A walk takes one turn after another. -/
theorem follow_cons (store : Store) (links : Nat) (directory : Location) (name : String)
    (rest : List String) :
    store.follow links directory (name :: rest) = match store.turn directory name, links with
      | .error reason, _ => .error reason
      | .ok (.place location), links => store.follow links location rest
      | .ok (.detour _), 0 => .error .tooManyLinks
      | .ok (.detour target), left + 1 =>
        store.follow left (origin directory target) (steps target ++ rest) := by
  rw [follow, turn, outline?]
  iterate 6
    split
    · rfl
  rcases store.get? (directory ++ [name]) with _ | ⟨_ | _ | target⟩
  · rfl
  · rfl
  · rfl
  · cases links <;> rfl

/-- The root can be walked through. -/
theorem follow_root_dot (store : Store) (links : Nat) (rest : List String) :
    store.follow links [] ("." :: rest) = store.follow links [] rest := by
  rw [follow_cons]
  rfl

/-- Every path starts at the root for a walk that begins there. -/
theorem origin_root (path : String) : origin [] path = [] := by
  unfold origin
  split <;> rfl

/-- A bare name in the root leads to its entry, or on along a link. -/
theorem locate_bare (store : Store) {path : String} (bare : steps path = [path])
    (checked : checkPath path = .ok ()) :
    store.locate [] path = match store.turn [] path with
      | .error reason => .error reason
      | .ok (.place location) => .ok location
      | .ok (.detour target) => store.follow (linkLimit - 1) [] (steps target) := by
  rw [locate, checked, bare, origin_root]
  show store.follow linkLimit [] [path] = _
  rw [follow_cons]
  cases store.turn [] path with
  | error reason => rfl
  | ok way =>
    cases way with
    | place location => exact follow_nil store linkLimit location
    | detour target =>
      show store.follow (linkLimit - 1) (origin [] target) (steps target ++ []) = _
      rw [origin_root, List.append_nil]

/-- A file may be moved to a bare name in the root, unless the name or what is there forbids it. -/
theorem locateTarget_bare (store : Store) {path : String} (bare : Path.names path = [path])
    (checked : checkPath path = .ok ()) :
    store.locateTarget [] path = if path.toList.contains '\x00' then .error .invalidArgument
      else store.destination path [] path := by
  rw [locateTarget_eq, locateName, checked, bare, origin_root]
  show (if _ then _ else (store.follow linkLimit [] ["."] >>= fun _ => _) >>= _) = _
  rw [follow_root_dot, follow_nil]
  rfl

/-- A dot leads nowhere else, and only from a directory. -/
theorem turn_dot {store : Store} {directory : Location} {way : Turn}
    (turned : store.turn directory "." = .ok way) :
    way = .place directory ∧ store.isDirectory directory = true := by
  unfold turn at turned
  grind

/-- A walk that ends in a dot ends in a directory. -/
theorem isDirectory_of_follow {store : Store} {links : Nat} {directory location : Location}
    {names : List String} (walked : store.follow links directory (names ++ ["."]) = .ok location) :
    store.isDirectory location = true := by
  cases names with
  | nil =>
    rw [List.nil_append, follow_cons] at walked
    cases turned : store.turn directory "." with
    | error reason => simp [turned] at walked
    | ok way =>
      obtain ⟨rfl, present⟩ := turn_dot turned
      simp only [turned, follow_nil] at walked
      cases walked
      exact present
  | cons name rest =>
    rw [List.cons_append, follow_cons] at walked
    cases turned : store.turn directory name with
    | error reason => simp [turned] at walked
    | ok way =>
      rw [turned] at walked
      cases way with
      | place _ => exact isDirectory_of_follow walked
      | detour target =>
        cases links with
        | zero => cases walked
        | succ left =>
          dsimp only at walked
          rw [← List.append_assoc] at walked
          exact isDirectory_of_follow walked
termination_by (links, names.length)

/-- No name leads on from what is not a directory. -/
theorem follow_of_not_directory {store : Store} {place : Location}
    (closed : store.isDirectory place = false) (links : Nat) (names : List String) :
    store.follow links place names = .ok place ∨
      store.follow links place names = .error .notDirectory := by
  cases names with
  | nil => exact .inl (follow_nil store links place)
  | cons name rest =>
    right
    rw [follow_cons, turn, closed]
    rfl

/-! ## Stores that look the same -/

/-- Stores that look the same to every walk. -/
def Alike (left right : Store) : Prop :=
  ∀ location, left.outline? location = right.outline? location

namespace Alike

variable {left right : Store} (alike : Alike left right)
include alike

/-- A file with another content looks the same. -/
theorem set (location : Location) (entry other : Entry) (same : entry.outline = other.outline) :
    Alike (left.set location entry) (right.set location other) := by
  intro place
  unfold outline?
  by_cases below : place = []
  · simp [get?, below]
  · by_cases changed : place = location
    · subst changed
      rw [get?_set_self _ below, get?_set_self _ below, Option.map_some, Option.map_some, same]
    · rw [get?_set_of_ne _ changed, get?_set_of_ne _ changed]
      exact alike place

theorem get?_eq_none_iff (location : Location) :
    left.get? location = none ↔ right.get? location = none := by
  rw [← Option.map_eq_none_iff, ← outline?, alike location, outline?, Option.map_eq_none_iff]

theorem isDirectory (location : Location) :
    left.isDirectory location = right.isDirectory location := by
  rw [isDirectory_eq, isDirectory_eq, alike location]

theorem directoryAllows (allows : Nat → Bool) (location : Location) :
    left.directoryAllows allows location = right.directoryAllows allows location := by
  rw [directoryAllows_eq, directoryAllows_eq, alike location]

theorem turn (directory : Location) (name : String) :
    left.turn directory name = right.turn directory name := by
  rw [Store.turn, Store.turn, alike.isDirectory, alike.directoryAllows, alike]

end Alike

/-- A walk ends at the same place in both stores. -/
theorem Alike.follow {left right : Store} (alike : Alike left right) (links : Nat)
    (directory : Location) (names : List String) :
    left.follow links directory names = right.follow links directory names := by
  cases names with
  | nil => rw [follow_nil, follow_nil]
  | cons name rest =>
    rw [follow_cons, follow_cons, ← alike.turn]
    cases left.turn directory name with
    | error reason => rfl
    | ok way =>
      cases way with
      | place location => exact alike.follow links location rest
      | detour target =>
        cases links with
        | zero => rfl
        | succ left => exact alike.follow left _ _
termination_by (links, names.length)

namespace Alike

variable {left right : Store} (alike : Alike left right) (working : Location) (path : String)
include alike

/-- A path leads to the same location in both stores. -/
theorem locate : left.locate working path = right.locate working path := by
  unfold Store.locate
  rw [alike.follow]

/-- What a path leads to has the same mode in both stores. -/
theorem modeOf : left.modeOf working path = right.modeOf working path := by
  rw [modeOf_eq, modeOf_eq, alike.locate]
  simp only [alike _]

/-- A file may be moved to the same location in both stores. -/
theorem locateTarget : left.locateTarget working path = right.locateTarget working path := by
  rw [locateTarget_eq, locateTarget_eq, locateName, locateName]
  simp only [alike.follow, destination, alike.directoryAllows, alike.isDirectory]

end Alike

/-! ## One file more -/

/-- The right store has a file more than the left one, at a place where nothing was. -/
structure Added (place : Location) (left right : Store) : Prop where
  free : left.outline? place = none
  file : ∃ mode, right.outline? place = some (.file mode)
  others : ∀ location, location ≠ place → right.outline? location = left.outline? location

/-- A file that is put where nothing was is one file more. -/
theorem added_set {store : Store} {place : Location} (free : store.get? place = none)
    (content : ByteArray) (mode : Nat) :
    Added place store (store.set place (.file content mode)) := by
  refine ⟨by simp [outline?, free], ⟨mode, ?_⟩, ?_⟩
  · rw [outline?, get?_set_self _ (ne_nil_of_free free)]
    rfl
  · intro location apart
    rw [outline?, outline?, get?_set_of_ne _ apart]

namespace Added

variable {place : Location} {left right : Store} (added : Added place left right)
include added

theorem isDirectory (location : Location) :
    right.isDirectory location = left.isDirectory location := by
  rw [isDirectory_eq, isDirectory_eq]
  by_cases here : location = place
  · obtain ⟨mode, file⟩ := added.file
    rw [here, file, added.free]
  · rw [added.others location here]

theorem directoryAllows (allows : Nat → Bool) (location : Location) :
    right.directoryAllows allows location = left.directoryAllows allows location := by
  rw [directoryAllows_eq, directoryAllows_eq]
  by_cases here : location = place
  · obtain ⟨mode, file⟩ := added.file
    rw [here, file, added.free]
  · rw [added.others location here]

/-- The file is no directory. -/
theorem isDirectory_place : right.isDirectory place = false := by
  obtain ⟨mode, file⟩ := added.file
  rw [isDirectory_eq, file]

/-- A name leads where it led, or to the file instead of nowhere. -/
theorem turn (directory : Location) (name : String) :
    right.turn directory name = left.turn directory name ∨
      left.turn directory name = .error .noEntry ∧
        right.turn directory name = .ok (.place place) := by
  rw [Store.turn, Store.turn, added.isDirectory, added.directoryAllows]
  by_cases here : directory ++ [name] = place
  · obtain ⟨mode, file⟩ := added.file
    rw [here, file, added.free]
    grind
  · rw [added.others _ here]
    exact .inl rfl

end Added

/-- A walk ends where it ended, or it met nothing at the place of the file. -/
theorem Added.follow {place : Location} {left right : Store} (added : Added place left right)
    (links : Nat) (directory : Location) (names : List String) :
    right.follow links directory names = left.follow links directory names ∨
      left.follow links directory names = .error .noEntry ∧
        (right.follow links directory names = .ok place ∨
          right.follow links directory names = .error .notDirectory) := by
  cases names with
  | nil =>
    left
    rw [follow_nil, follow_nil]
  | cons name rest =>
    rw [follow_cons, follow_cons]
    rcases added.turn directory name with same | ⟨missed, met⟩
    · rw [same]
      cases left.turn directory name with
      | error reason => exact .inl rfl
      | ok way =>
        cases way with
        | place location => exact added.follow links location rest
        | detour target =>
          cases links with
          | zero => exact .inl rfl
          | succ left => exact added.follow left _ _
    · right
      rw [missed, met]
      exact ⟨rfl, follow_of_not_directory added.isDirectory_place links rest⟩
termination_by (links, names.length)

namespace Added

variable {place : Location} {left right : Store} (added : Added place left right)
  (working : Location) (path : String)
include added

/-- A path leads where it led, or it led nowhere. -/
theorem locate :
    right.locate working path = left.locate working path ∨
      left.locate working path = .error .noEntry ∧
        (right.locate working path = .ok place ∨
          right.locate working path = .error .notDirectory) := by
  unfold Store.locate
  cases checkPath path with
  | error reason => exact .inl rfl
  | ok _ => exact added.follow linkLimit (origin working path) (steps path)

/-- A walk to a directory ends where it ended. -/
theorem follow_ok_iff (links : Nat) (directory : Location) (names : List String)
    (location : Location) :
    right.follow links directory (names ++ ["."]) = .ok location ↔
      left.follow links directory (names ++ ["."]) = .ok location := by
  rcases added.follow links directory (names ++ ["."]) with same | ⟨missed, met | failed⟩
  · rw [same]
  · have opened := isDirectory_of_follow met
    rw [added.isDirectory_place] at opened
    cases opened
  · simp [missed, failed]

/-- The last name of a path is in the directory where it was. -/
theorem locateName_ok_iff (found : Location × String) :
    right.locateName working path = .ok found ↔ left.locateName working path = .ok found := by
  unfold Store.locateName
  cases checkPath path with
  | error reason => rfl
  | ok _ =>
    cases (Path.names path).getLast? with
    | none => rfl
    | some name =>
      have same := added.follow_ok_iff linkLimit (origin working path) (Path.names path).dropLast
      simp only [bind_eq_ok, same]

/-- A file may be moved to where it might be moved. -/
theorem locateTarget_ok_iff (target : Location) :
    right.locateTarget working path = .ok target ↔ left.locateTarget working path = .ok target := by
  rw [locateTarget_eq, locateTarget_eq]
  split
  · rfl
  · simp only [bind_eq_ok, added.locateName_ok_iff, destination, added.directoryAllows,
      added.isDirectory]

variable {working path}

/-- What a path led to keeps its mode. -/
theorem modeOf_of_ok {mode : Nat} (told : left.modeOf working path = .ok mode) :
    right.modeOf working path = .ok mode := by
  rw [modeOf_eq] at told ⊢
  rcases added.locate working path with same | ⟨missed, -⟩
  · rw [same]
    cases found : left.locate working path with
    | error reason => simp [found, Except.bind] at told
    | ok location =>
      rw [found] at told
      have apart : location ≠ place := by
        rintro rfl
        simp [Except.bind, added.free] at told
      simpa only [Except.bind, added.others location apart] using told
  · simp [missed, Except.bind] at told

/-- A path that led to nothing with a mode leads to none now, unless it leads to the file. -/
theorem modeOf_of_error {reason : SystemError} (untold : left.modeOf working path = .error reason)
    (unmet : right.locate working path ≠ .ok place) :
    ∃ reason, right.modeOf working path = .error reason := by
  rw [modeOf_eq] at untold ⊢
  rcases added.locate working path with same | ⟨-, met | failed⟩
  · rw [same] at unmet ⊢
    cases found : left.locate working path with
    | error other => exact ⟨other, rfl⟩
    | ok location =>
      have apart : location ≠ place := by
        rintro rfl
        exact unmet found
      rw [found] at untold
      simp only [Except.bind, added.others location apart]
      exact ⟨reason, untold⟩
  · exact absurd met unmet
  · rw [failed]
    exact ⟨.notDirectory, rfl⟩

end Added

end Store

end SupervisoryLadder.Files
