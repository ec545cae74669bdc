import SupervisoryLadder.Model.Fault

/-!
# Reading a text from left to right

A cursor is a position in a text together with what is still unread. A reader takes a cursor and
gives its value with a cursor that has less to read, or a fault; since every reader moves forward,
loops of readers end.
-/

namespace SupervisoryLadder.Model

/-- A position in a text and the characters from there on. -/
structure Cursor where
  line : Nat
  column : Nat
  rest : List Char

namespace Cursor

/-- The start of a text. -/
def ofText (text : String) : Cursor := ⟨1, 0, text.toList⟩

/-- The number of unread characters. -/
def size (cursor : Cursor) : Nat := cursor.rest.length

/-- The position of the cursor. -/
def here (cursor : Cursor) : Position := ⟨cursor.line, cursor.column⟩

/-- The position one byte further, or that of the cursor at the end of the text. -/
def ahead (cursor : Cursor) : Position :=
  match cursor.rest with
  | [] => cursor.here
  | next :: _ => if next = '\n' then ⟨cursor.line + 1, 0⟩ else ⟨cursor.line, cursor.column + 1⟩

/-- The cursor behind the next character. -/
def advance (cursor : Cursor) : Cursor :=
  match cursor.rest with
  | [] => cursor
  | next :: rest =>
    if next = '\n' then ⟨cursor.line + 1, 0, rest⟩
    else ⟨cursor.line, cursor.column + next.utf8Size, rest⟩

/-- A character that was there is read by advancing. -/
theorem size_advance {cursor : Cursor} {next : Char} {rest : List Char}
    (unread : cursor.rest = next :: rest) : cursor.advance.size < cursor.size := by
  simp only [advance, size, unread]
  split <;> simp

/-- Advancing leaves no more to read than there was. -/
theorem size_advance_le {cursor : Cursor} {next : Char} {rest : List Char}
    (unread : cursor.rest = next :: rest) : cursor.advance.size ≤ cursor.size :=
  Nat.le_of_lt (size_advance unread)

/-- The cursor behind all white space. -/
def skipFrom (line column : Nat) : List Char → Cursor
  | [] => ⟨line, column, []⟩
  | next :: rest =>
    if next = '\n' then skipFrom (line + 1) 0 rest
    else if next = ' ' ∨ next = '\t' ∨ next = '\r' then skipFrom line (column + 1) rest
    else ⟨line, column, next :: rest⟩

/-- Passing over white space leaves no more to read than there was. -/
theorem size_skipFrom (line column : Nat) (text : List Char) :
    (skipFrom line column text).size ≤ text.length := by
  induction text generalizing line column with
  | nil => simp [skipFrom, size]
  | cons next rest inductionHypothesis =>
    unfold skipFrom
    split
    · exact Nat.le_succ_of_le (inductionHypothesis (line + 1) 0)
    · split
      · exact Nat.le_succ_of_le (inductionHypothesis line (column + 1))
      · simp [size]

/-- The cursor behind the white space that follows. -/
def skipSpace (cursor : Cursor) : Cursor := skipFrom cursor.line cursor.column cursor.rest

/-- Passing over white space leaves no more to read than there was. -/
theorem size_skipSpace (cursor : Cursor) : cursor.skipSpace.size ≤ cursor.size :=
  size_skipFrom cursor.line cursor.column cursor.rest

/-- A character behind white space is read by passing over the space and advancing. -/
theorem size_advance_skipSpace {cursor : Cursor} {next : Char} {rest : List Char}
    (unread : cursor.skipSpace.rest = next :: rest) :
    cursor.skipSpace.advance.size < cursor.size :=
  Nat.lt_of_lt_of_le (size_advance unread) cursor.size_skipSpace

/-- The position a number of bytes further, or at the end of the text when there are fewer. -/
def bytesAhead (cursor : Cursor) (bytes : Nat) : Position :=
  go bytes cursor.here cursor.rest
where
  go (bytes : Nat) (position : Position) : List Char → Position
    | [] => position
    | next :: rest =>
      if bytes = 0 then position
      else if next = '\n' then go (bytes - 1) ⟨position.line + 1, 0⟩ rest
      else if next.utf8Size ≤ bytes then
        go (bytes - next.utf8Size) ⟨position.line, position.column + next.utf8Size⟩ rest
      else ⟨position.line, position.column + bytes⟩

/-- True when at least this many bytes are unread. -/
def hasBytes (cursor : Cursor) (bytes : Nat) : Bool :=
  bytes ≤ (cursor.rest.take bytes).foldl (fun total next => total + next.utf8Size) 0

/-- A fault at the cursor. -/
def faultHere (cursor : Cursor) (cause : Cause) : Fault := ⟨cause, cursor.here⟩

/-- A fault that shows at the next byte. -/
def faultAhead (cursor : Cursor) (cause : Cause) : Fault := ⟨cause, cursor.ahead⟩

end Cursor

/-- A cursor with less to read than another. -/
abbrev Beyond (cursor : Cursor) : Type := { after : Cursor // after.size < cursor.size }

/-- A reader of values of one type: it gives a value and a cursor that has less to read. -/
abbrev Reader (α : Type) : Type := (cursor : Cursor) → Except Fault (α × Beyond cursor)

/-- A reading that starts further on counts as one that starts before. -/
def since {α : Type} {cursor later : Cursor} (bound : later.size ≤ cursor.size)
    (reading : Except Fault (α × Beyond later)) : Except Fault (α × Beyond cursor) :=
  match reading with
  | .error fault => .error fault
  | .ok (value, ⟨after, shorter⟩) => .ok (value, ⟨after, Nat.lt_of_lt_of_le shorter bound⟩)

end SupervisoryLadder.Model
