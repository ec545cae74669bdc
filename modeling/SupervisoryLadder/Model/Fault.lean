import SupervisoryLadder.Decimal.Shortest
import SupervisoryLadder.Text.Quoted

/-!
# Faults of a model text

A fault is a cause at a position. Lines count from one, columns count the bytes of the line that are
already read.
-/

namespace SupervisoryLadder.Model

/-- A place in the text. -/
structure Position where
  line : Nat
  column : Nat
  deriving DecidableEq

/-- What stands where a value of another type was expected. -/
inductive Found where
  | null
  | boolean (value : Bool)
  | integer (value : Int)
  | float (negative : Bool) (magnitude : Decimal.Binary)
  | string (text : String)
  | list
  | object
  deriving DecidableEq

/-- What is wrong with the text. -/
inductive Cause where
  | endInList
  | endInObject
  | endInString
  | endInValue
  | missingColon
  | missingListComma
  | missingObjectComma
  | misspelledWord
  | noValue
  | badEscape
  | badNumber
  | numberOutOfRange
  | keyNotString
  | loneSurrogate
  | brokenSurrogatePair
  | controlCharacter
  | trailingComma
  | trailingCharacters
  | wrongType (found : Found) (expected : String)
  | wrongLength (count : Nat) (expected : String)
  | unknownField (key : String) (known : List String)
  | duplicateField (key : String)
  | missingField (key : String)
  deriving DecidableEq

/-- A cause and the position at which it shows. -/
structure Fault where
  cause : Cause
  position : Position
  deriving DecidableEq

/-- The description of a value of the wrong type. -/
def Found.describe : Found → String
  | null => "null"
  | boolean value => "boolean `" ++ (if value then "true" else "false") ++ "`"
  | integer value => "integer `" ++ toString value ++ "`"
  | float negative magnitude => "floating point `" ++ Decimal.text negative magnitude ++ "`"
  | string text => "string " ++ Text.quote text
  | list => "sequence"
  | object => "map"

/-- A key between backticks. -/
def tick (key : String) : String := "`" ++ key ++ "`"

/-- The fields that a structure knows, as a hint. -/
def expectedFields : List String → String
  | [first, second] => tick first ++ " or " ++ tick second
  | known => "one of " ++ String.intercalate ", " (known.map tick)

/-- The text of a cause. -/
def Cause.message : Cause → String
  | endInList => "EOF while parsing a list"
  | endInObject => "EOF while parsing an object"
  | endInString => "EOF while parsing a string"
  | endInValue => "EOF while parsing a value"
  | missingColon => "expected `:`"
  | missingListComma => "expected `,` or `]`"
  | missingObjectComma => "expected `,` or `\x7d`"
  | misspelledWord => "expected ident"
  | noValue => "expected value"
  | badEscape => "invalid escape"
  | badNumber => "invalid number"
  | numberOutOfRange => "number out of range"
  | keyNotString => "key must be a string"
  | loneSurrogate => "lone leading surrogate in hex escape"
  | brokenSurrogatePair => "unexpected end of hex escape"
  | controlCharacter => "control character (\\u0000-\\u001F) found while parsing a string"
  | trailingComma => "trailing comma"
  | trailingCharacters => "trailing characters"
  | wrongType found expected => "invalid type: " ++ found.describe ++ ", expected " ++ expected
  | wrongLength count expected => "invalid length " ++ Nat.repr count ++ ", expected " ++ expected
  | unknownField key known =>
    "unknown field " ++ tick key ++ ", expected " ++ expectedFields known
  | duplicateField key => "duplicate field " ++ tick key
  | missingField key => "missing field " ++ tick key

/-- The text of a fault. -/
def Fault.message (fault : Fault) : String :=
  fault.cause.message ++ " at line " ++ Nat.repr fault.position.line ++ " column " ++
    Nat.repr fault.position.column

end SupervisoryLadder.Model
