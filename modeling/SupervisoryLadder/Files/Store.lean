import SupervisoryLadder.Files.Path
import SupervisoryLadder.Files.SystemError

/-!
# A store of files

A store maps locations to files, directories and symbolic links. A location is the list of names
from the root; the root itself is a directory that is always there. Paths are walked name by name: a
link on the way is replaced by what it points to, and at most forty links are followed. Everything
in a store has one owner, and the owner's bits of a mode say what may be done: a file is read or
written, a directory is listed, changed or walked through.
-/

namespace SupervisoryLadder.Files

/-- The names from the root to an entry. -/
abbrev Location := List String

/-- What is at a location. -/
inductive Entry where
  | file (content : ByteArray) (mode : Nat)
  | directory (mode : Nat)
  | link (target : String)

/-- The entries of a file system, each with its location. -/
structure Store where
  entries : List (Location × Entry)

/-- The mode of a new file. -/
def newFileMode : Nat := 0o644

/-- The mode of a new directory. -/
def newDirectoryMode : Nat := 0o755

/-- True for a mode that lets the owner read a file or list a directory. -/
def mayRead (mode : Nat) : Bool := mode.testBit 8

/-- True for a mode that lets the owner write a file or change what is in a directory. -/
def mayWrite (mode : Nat) : Bool := mode.testBit 7

/-- True for a mode that lets the owner walk through a directory. -/
def maySearch (mode : Nat) : Bool := mode.testBit 6

/-- The number of links that a walk follows. -/
def linkLimit : Nat := 40

/-- The number of bytes of the longest name. -/
def nameLimit : Nat := 255

/-- The number of bytes that a path has to stay below. -/
def pathLimit : Nat := 4096

namespace Store

/-- The store with nothing but the root. -/
def empty : Store := ⟨[]⟩

/-- The entry at a location. -/
def get? (store : Store) (location : Location) : Option Entry :=
  if location = [] then some (.directory newDirectoryMode) else store.entries.lookup location

/-- The store with an entry at a location, in place of what was there. -/
def set (store : Store) (location : Location) (entry : Entry) : Store :=
  ⟨(location, entry) :: store.entries.filter fun known => known.1 != location⟩

/-- The store without the entry at a location. -/
def erase (store : Store) (location : Location) : Store :=
  ⟨store.entries.filter fun known => known.1 != location⟩

/-- True for a location with a directory. -/
def isDirectory (store : Store) (location : Location) : Bool :=
  match store.get? location with
  | some (.directory _) => true
  | _ => false

/-- True for a location with a directory whose mode allows something. -/
def directoryAllows (store : Store) (allows : Nat → Bool) (location : Location) : Bool :=
  match store.get? location with
  | some (.directory mode) => allows mode
  | _ => false

/-- The names of a path in order. A slash at the end adds an empty name, which asks for a directory
and leads nowhere else. -/
def steps (path : String) : List String :=
  Path.names path ++ if Path.endsInSlash path then [""] else []

/-- Follows names from a directory, and every link on the way. -/
def follow (store : Store) (links : Nat) (directory : Location) (names : List String) :
    Except SystemError Location :=
  match names with
  | [] => .ok directory
  | name :: rest =>
    if !store.isDirectory directory then .error .notDirectory
    else if name = "" then follow store links directory rest
    else if !store.directoryAllows maySearch directory then .error .denied
    else if name = "." then follow store links directory rest
    else if name = ".." then follow store links directory.dropLast rest
    else if nameLimit < name.utf8ByteSize then .error .nameTooLong
    else
      match store.get? (directory ++ [name]) with
      | none => .error .noEntry
      | some (.link target) =>
        match links with
        | 0 => .error .tooManyLinks
        | left + 1 =>
          follow store left (if Path.isAbsolute target then [] else directory)
            (steps target ++ rest)
      | some _ => follow store links (directory ++ [name]) rest
termination_by (links, names.length)

/-- What a path asks for before any walk: it is not empty, not too long, and has no zero byte. -/
def checkPath (path : String) : Except SystemError Unit :=
  if path.toList.contains '\x00' then .error .nulInPath
  else if path.isEmpty then .error .noEntry
  else if pathLimit ≤ path.utf8ByteSize then .error .nameTooLong
  else .ok ()

/-- Where a path starts. -/
def origin (working : Location) (path : String) : Location :=
  if Path.isAbsolute path then [] else working

/-- The location of the entry that a path leads to, all links followed. A slash at the end asks for
a directory. -/
def locate (store : Store) (working : Location) (path : String) : Except SystemError Location := do
  checkPath path
  store.follow linkLimit (origin working path) (steps path)

/-- The directory of a path's last name, and that name. At the root it is a dot. -/
def locateName (store : Store) (working : Location) (path : String) :
    Except SystemError (Location × String) := do
  checkPath path
  match (Path.names path).getLast? with
  | none => return ([], ".")
  | some name =>
    let directory ← store.follow linkLimit (origin working path)
      ((Path.names path).dropLast ++ ["."])
    return (directory, name)

/-- The location that a file may be moved to. It must not be a directory, nor be written like one,
and the directory around it must be open to changes. -/
def locateTarget (store : Store) (working : Location) (path : String) :
    Except SystemError Location := do
  if path.toList.contains '\x00' then throw .invalidArgument
  let (directory, name) ← store.locateName working path
  if name = "." ∨ name = ".." then throw .busy
  else if nameLimit < name.utf8ByteSize then throw .nameTooLong
  else if Path.endsInSlash path then throw .notDirectory
  else if !store.directoryAllows mayWrite directory then throw .denied
  else if store.isDirectory (directory ++ [name]) then throw .isDirectory
  else return directory ++ [name]

/-- The location of a file to write, which need not be there yet. A link at the end is followed,
also when it points to nothing yet. The file, or else the directory around it, must be open to
changes. -/
def locateFile (store : Store) (links : Nat) (working : Location) (path : String) :
    Except SystemError Location := do
  let (directory, name) ← store.locateName working path
  if name = "." ∨ name = ".." ∨ Path.endsInSlash path then throw .isDirectory
  else if nameLimit < name.utf8ByteSize then throw .nameTooLong
  else
    match store.get? (directory ++ [name]) with
    | some (.directory _) => throw .isDirectory
    | some (.link target) =>
      match links with
      | 0 => throw .tooManyLinks
      | left + 1 => locateFile store left directory target
    | some (.file _ mode) =>
      if mayWrite mode then return directory ++ [name] else throw .denied
    | none =>
      if store.directoryAllows mayWrite directory then return directory ++ [name]
      else throw .denied

/-- The text of the file that a path leads to. -/
def readText (store : Store) (working : Location) (path : String) : Except SystemError String := do
  let location ← store.locate working path
  match store.get? location with
  | some (.file content mode) =>
    if !mayRead mode then throw .denied
    else
      match String.fromUTF8? content with
      | some text => return text
      | none => throw .notText
  | some (.directory mode) => throw (if mayRead mode then .isDirectory else .denied)
  | _ => throw .noEntry

/-- The mode of what a path leads to. -/
def modeOf (store : Store) (working : Location) (path : String) : Except SystemError Nat := do
  let location ← store.locate working path
  match store.get? location with
  | some (.file _ mode) | some (.directory mode) => return mode
  | _ => throw .noEntry

/-- Writes a file in place, with the mode of a new file. -/
def writeFile (store : Store) (working : Location) (path : String) (content : ByteArray) :
    Except SystemError Store := do
  let location ← store.locateFile linkLimit working path
  return store.set location (.file content newFileMode)

/-- Changes the mode of what a path leads to. -/
def setMode (store : Store) (working : Location) (path : String) (mode : Nat) :
    Except SystemError Store := do
  let location ← store.locate working path
  match store.get? location with
  | some (.file content _) => return store.set location (.file content mode)
  | some (.directory _) => return store.set location (.directory mode)
  | _ => throw .noEntry

/-- Adds an entry to a directory under a name that is still free. The names with a meaning of their
own are never free. -/
def addNamed (store : Store) (directory : Location) (name : String) (entry : Entry) :
    Except SystemError Store :=
  if nameLimit < name.utf8ByteSize then .error .nameTooLong
  else if name = "." ∨ name = ".." then .error .exists
  else
    match store.get? (directory ++ [name]) with
    | some _ => .error .exists
    | none =>
      if store.directoryAllows mayWrite directory then .ok (store.set (directory ++ [name]) entry)
      else .error .denied

/-- Adds an entry under the last name of a path. -/
def addEntry (store : Store) (working : Location) (path : String) (entry : Entry) :
    Except SystemError Store := do
  let (directory, name) ← store.locateName working path
  store.addNamed directory name entry

/-- Makes a directory. -/
def makeDirectory (store : Store) (working : Location) (path : String) : Except SystemError Store :=
  store.addEntry working path (.directory newDirectoryMode)

/-- Makes a symbolic link. What it points to need not be there, but must be a path. -/
def makeLink (store : Store) (working : Location) (path target : String) :
    Except SystemError Store := do
  checkPath target
  store.addEntry working path (.link target)

/-- The order of a listing: a directory before what is in it, and names in ascending order. -/
def precedes : Location → Location → Bool
  | [], _ => true
  | _ :: _, [] => false
  | left :: lefts, right :: rights =>
    left < right || (left == right && precedes lefts rights)

/-- True when a directory with this mode can be listed at this location: it may be read and, with
something in it, walked through. -/
def isListable (store : Store) (location : Location) (mode : Nat) : Bool :=
  mayRead mode && (maySearch mode || store.entries.all fun known =>
    known.1.isEmpty || known.1.dropLast != location)

/-- The entries below a location, with their locations from there, in the order of a listing. All
directories there must be open to it. -/
def listing (store : Store) (base : Location) : Except SystemError (List (Location × Entry)) :=
  let inside := store.entries.filter fun known => base.isPrefixOf known.1
  if inside.any fun known => match known.2 with
    | .directory mode => !store.isListable known.1 mode
    | _ => false
  then .error .denied
  else
    .ok ((inside.filterMap fun known =>
      if known.1 = base then none else some (known.1.drop base.length, known.2)).mergeSort
        fun left right => precedes left.1 right.1)

end Store

end SupervisoryLadder.Files
