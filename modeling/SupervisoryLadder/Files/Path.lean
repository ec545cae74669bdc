/-!
# Paths as text

A path is the text of names between slashes. Names that are empty or a single dot add nothing behind
another name. The functions here only look at the text; what a path leads to is a matter of the
store.
-/

namespace SupervisoryLadder.Files.Path

/-- The pieces of a text between slashes. -/
def splitPieces : List Char → List (List Char)
  | [] => [[]]
  | character :: rest =>
    if character = '/' then [] :: splitPieces rest
    else
      match splitPieces rest with
      | [] => [[character]]
      | piece :: pieces => (character :: piece) :: pieces

/-- The pieces of a path between slashes, empty ones included. -/
def pieces (path : String) : List String := (splitPieces path.toList).map String.ofList

/-- True for a path that starts at the root. -/
def isAbsolute (path : String) : Bool := path.toList.head? == some '/'

/-- True for a path that ends in a slash. -/
def endsInSlash (path : String) : Bool := path.toList.getLast? == some '/'

/-- The names of a path in order. -/
def names (path : String) : List String := (pieces path).filter fun piece => piece != ""

/-- Drops pieces from the end that add nothing. -/
def dropIdle (pieces : List String) : List String :=
  (pieces.reverse.dropWhile fun piece => piece == "" || piece == ".").reverse

/-- The pieces of a path without those at its end that add nothing. The first piece stays: it is
empty at the root and a dot in the working directory. -/
def essential (path : String) : List String :=
  match pieces path with
  | [] => []
  | first :: rest => first :: dropIdle rest

/-- The name of the file that a path names. There is none at the root, in the working directory
itself and behind two dots. -/
def fileName? (path : String) : Option String :=
  match (essential path).getLast? with
  | none => none
  | some name => if name = "" ∨ name = "." ∨ name = ".." then none else some name

/-- Pieces as a path again. The root alone is a slash. -/
def ofPieces (pieces : List String) : String :=
  if pieces = [""] then "/" else String.intercalate "/" pieces

/-- The path of the directory that holds the named file; a bare name is in the working directory. -/
def directory (path : String) : String :=
  match (essential path).dropLast with
  | [] => "."
  | first :: rest => ofPieces (first :: dropIdle rest)

/-- A path inside a directory; an absolute path stands for itself. -/
def join (directory path : String) : String :=
  if isAbsolute path then path
  else if endsInSlash directory then directory ++ path
  else directory ++ "/" ++ path

end SupervisoryLadder.Files.Path
