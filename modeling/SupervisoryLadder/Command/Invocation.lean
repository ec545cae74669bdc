/-!
# Reading the command line

The command line has a level of its own options and then a subcommand with its options. Options are
written long or as letters, which may be run together; a value is attached or is the next argument.
Arguments are read in order. A value that stands alone is only checked when the next option of its
level follows or everything is read, so a request for help in between comes first.
-/

namespace SupervisoryLadder.Command

/-- Why reading the command line stops early. -/
inductive Stop where
  | usage
  | help
  deriving DecidableEq

/-- What a value on the command line is for. -/
inductive Key where
  | logFile
  | model
  | output
  | projectName
  | unitName
  deriving DecidableEq

/-- What an option does. -/
inductive Effect where
  | help
  | verbose
  | value (key : Key)
  deriving DecidableEq

/-- An option with its long name and, if it has one, its letter. -/
structure Switch where
  long : String
  letter : Option Char
  effect : Effect

/-- What may be written on a level. -/
structure Level where
  switches : List Switch
  /-- What an argument that is no option is for. -/
  positional : Option Key
  subcommands : List String

/-- What is read of a level. -/
structure Parsed where
  verbosity : Nat := 0
  values : List (Key × String) := []
  /-- A value that is not checked yet. -/
  pending : Option (Key × String) := none
  hasPositional : Bool := false

/-- The greatest number of repetitions that is counted. -/
def verbosityLimit : Nat := 255

/-- Paths must not be empty; names may be. -/
def Key.allowsEmpty : Key → Bool
  | logFile | model | output => false
  | projectName | unitName => true

namespace Parsed

/-- The value of a key. -/
def get? (parsed : Parsed) (key : Key) : Option String := parsed.values.lookup key

/-- Checks the pending value: it must not repeat a value nor be an empty path. -/
def settle (parsed : Parsed) : Except Stop Parsed :=
  match parsed.pending with
  | none => .ok parsed
  | some (key, value) =>
    if (parsed.get? key).isSome ∨ (value.isEmpty ∧ !key.allowsEmpty) then .error .usage
    else .ok { parsed with values := parsed.values ++ [(key, value)], pending := none }

/-- Takes up a value that is checked later. -/
def await (parsed : Parsed) (key : Key) (value : String) : Parsed :=
  { parsed with pending := some (key, value) }

/-- Counts one more request for detail. -/
def countVerbose (parsed : Parsed) : Parsed :=
  { parsed with verbosity := min (parsed.verbosity + 1) verbosityLimit }

end Parsed

/-- True for an argument that can only be an option. -/
def looksLikeSwitch (argument : String) : Bool :=
  argument.toList.head? == some '-' && argument != "-"

/-- A long option and the value attached to it. -/
def splitLong (characters : List Char) : String × Option String :=
  let name := characters.takeWhile fun character => character != '='
  match characters.dropWhile fun character => character != '=' with
  | [] => (String.ofList name, none)
  | _ :: value => (String.ofList name, some (String.ofList value))

namespace Level

/-- The effect of a long option. -/
def long? (level : Level) (name : String) : Option Effect :=
  (level.switches.find? fun switch => switch.long == name).map Switch.effect

/-- The effect of a letter. -/
def letter? (level : Level) (letter : Char) : Option Effect :=
  (level.switches.find? fun switch => switch.letter == some letter).map Switch.effect

/-- Letters behind a dash. The last one may leave a value to come. -/
def readLetters (level : Level) (parsed : Parsed) : List Char → Except Stop (Parsed × Option Key)
  | [] => .ok (parsed, none)
  | letter :: rest =>
    match level.letter? letter with
    | none => .error .usage
    | some .help => do
      let _ ← parsed.settle
      throw .help
    | some .verbose => do
      let settled ← parsed.settle
      readLetters level settled.countVerbose rest
    | some (.value key) => do
      let settled ← parsed.settle
      match rest with
      | [] => return (settled, some key)
      | '=' :: value => return (← (settled.await key (String.ofList value)).settle, none)
      | value => return (← (settled.await key (String.ofList value)).settle, none)

/-- A long option. It may leave a value to come. -/
def readLong (level : Level) (parsed : Parsed) (characters : List Char) :
    Except Stop (Parsed × Option Key) :=
  let (name, attached) := splitLong characters
  match level.long? name, attached with
  | none, _ => .error .usage
  | some .help, none => do
    let _ ← parsed.settle
    throw .help
  | some .verbose, none => do
    let settled ← parsed.settle
    return (settled.countVerbose, none)
  | some .help, some _ | some .verbose, some _ => .error .usage
  | some (.value key), none => do
    let settled ← parsed.settle
    return (settled, some key)
  | some (.value key), some value => do
    let settled ← parsed.settle
    return (← (settled.await key value).settle, none)

/-- An argument that is no option: a subcommand, or the value of the level's own argument. -/
def readPlain (level : Level) (parsed : Parsed) (argument : String) : Except Stop Parsed :=
  match level.positional with
  | none => .error .usage
  | some key => do
    let settled ← parsed.settle
    if settled.hasPositional then throw .usage
    else return { settled.await key argument with hasPositional := true }

/-- An option, long or as letters. It may leave a value to come. -/
def readSwitch (level : Level) (parsed : Parsed) (argument : String) :
    Except Stop (Parsed × Option Key) :=
  match argument.toList with
  | '-' :: '-' :: characters => level.readLong parsed characters
  | characters => level.readLetters parsed (characters.drop 1)

/-- Reads the arguments of a level, up to a subcommand with its own arguments. Behind two dashes
there are no options and no subcommands. -/
def read (level : Level) (parsed : Parsed) :
    List String → Except Stop (Parsed × Option (String × List String))
  | [] => .ok (parsed, none)
  | argument :: rest =>
    if argument = "--" then
      match rest.foldlM (readPlain level) parsed with
      | .error stop => .error stop
      | .ok plain => .ok (plain, none)
    else if looksLikeSwitch argument then
      match level.readSwitch parsed argument with
      | .error stop => .error stop
      | .ok (next, none) => read level next rest
      | .ok (next, some key) =>
        match rest with
        | [] => .error .usage
        | value :: more =>
          if looksLikeSwitch value then .error .usage
          else read level (next.await key value) more
    else if level.subcommands.contains argument then .ok (parsed, some (argument, rest))
    else
      match level.readPlain parsed argument with
      | .error stop => .error stop
      | .ok plain => read level plain rest

end Level

/-- The option that asks for help, which is on every level. -/
def helpSwitch : Switch := ⟨"help", some 'h', .help⟩

/-- The level before the subcommand. -/
def outerLevel : Level where
  switches := [helpSwitch, ⟨"verbose", some 'v', .verbose⟩, ⟨"log-file", some 'l', .value .logFile⟩]
  positional := none
  subcommands := ["generate", "version", "help"]

/-- The level of the subcommand that makes a project. -/
def generateLevel : Level where
  switches := [helpSwitch, ⟨"output", some 'o', .value .output⟩,
    ⟨"project-name", none, .value .projectName⟩, ⟨"pou-name", none, .value .unitName⟩]
  positional := some .model
  subcommands := []

/-- The level of the subcommand that tells the version. -/
def versionLevel : Level where
  switches := [helpSwitch]
  positional := none
  subcommands := []

/-- What is to be done. -/
inductive Action where
  | generate (model output : String) (projectName unitName : Option String)
  | version
  deriving DecidableEq

/-- A command line that can be carried out. -/
structure Invocation where
  verbosity : Nat
  logFile : Option String
  action : Action
  deriving DecidableEq

/-- The subcommand that makes a project: model and output are required. -/
def readGenerate (arguments : List String) : Except Stop Action := do
  let (parsed, _) ← generateLevel.read {} arguments
  let settled ← parsed.settle
  match settled.get? .model, settled.get? .output with
  | some model, some output =>
    return .generate model output (settled.get? .projectName) (settled.get? .unitName)
  | _, _ => throw .usage

/-- The subcommand that tells the version. -/
def readVersion (arguments : List String) : Except Stop Action := do
  let _ ← versionLevel.read {} arguments
  return .version

/-- The subcommand that gives help, on everything or on one subcommand. -/
def readHelp (arguments : List String) : Stop :=
  match arguments with
  | [] => .help
  | [name] => if outerLevel.subcommands.contains name then .help else .usage
  | _ => .usage

/-- Reads a command line. The values before the subcommand are checked last. -/
def Invocation.read (arguments : List String) : Except Stop Invocation := do
  let (parsed, subcommand) ← outerLevel.read {} arguments
  let action ← match subcommand with
    | some ("generate", rest) => readGenerate rest
    | some ("version", rest) => readVersion rest
    | some ("help", rest) => throw (readHelp rest)
    | _ => throw .usage
  let settled ← parsed.settle
  return ⟨settled.verbosity, settled.get? .logFile, action⟩

end SupervisoryLadder.Command
