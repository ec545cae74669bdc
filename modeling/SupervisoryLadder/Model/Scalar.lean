import SupervisoryLadder.Model.Cursor

/-!
# Strings, words and numbers of a model text

A document holds strings and Booleans. Numbers are read too, but only to be named in a fault.
-/

namespace SupervisoryLadder.Model

/-! ## Strings -/

/-- The value of a hexadecimal digit. -/
def hexDigit? (character : Char) : Option Nat :=
  let code := character.toNat
  if '0'.toNat ≤ code ∧ code ≤ '9'.toNat then some (code - '0'.toNat)
  else if 'a'.toNat ≤ code ∧ code ≤ 'f'.toNat then some (code - 'a'.toNat + 10)
  else if 'A'.toNat ≤ code ∧ code ≤ 'F'.toNat then some (code - 'A'.toNat + 10)
  else none

/-- Four hexadecimal digits. Four bytes are taken whatever they are. -/
def readUnit : Reader Nat := fun cursor =>
  match unread : cursor.rest with
  | first :: second :: third :: fourth :: rest =>
    match hexDigit? first, hexDigit? second, hexDigit? third, hexDigit? fourth with
    | some a, some b, some c, some d =>
      .ok (((a * 16 + b) * 16 + c) * 16 + d,
        ⟨⟨cursor.line, cursor.column + 4, rest⟩, by simp [Cursor.size, unread]; omega⟩)
    | _, _, _, _ => .error ⟨.badEscape, cursor.bytesAhead 4⟩
  | _ =>
    .error ⟨if cursor.hasBytes 4 then .badEscape else .endInString, cursor.bytesAhead 4⟩

/-- True for the first half of a surrogate pair. -/
def isLeadingSurrogate (unit : Nat) : Bool := 0xD800 ≤ unit && unit ≤ 0xDBFF

/-- True for the second half of a surrogate pair. -/
def isTrailingSurrogate (unit : Nat) : Bool := 0xDC00 ≤ unit && unit ≤ 0xDFFF

/-- One character that has to follow within a surrogate pair. -/
def readPairSign (sign : Char) : Reader Unit := fun cursor =>
  match unread : cursor.rest with
  | [] => .error (cursor.faultHere .endInString)
  | next :: _ =>
    if next = sign then .ok ((), ⟨cursor.advance, Cursor.size_advance unread⟩)
    else .error (cursor.faultAhead .brokenSurrogatePair)

/-- The character of an escape by code units, behind the letter that announces it. -/
def readCodeUnits : Reader Char := fun cursor => do
  let ⟨unit, afterUnit, shortUnit⟩ ← readUnit cursor
  if isTrailingSurrogate unit then
    throw (afterUnit.faultHere .loneSurrogate)
  else if isLeadingSurrogate unit then
    let ⟨_, afterSlash, shortSlash⟩ ← readPairSign '\\' afterUnit
    let ⟨_, afterLetter, shortLetter⟩ ← readPairSign 'u' afterSlash
    let ⟨second, afterSecond, shortSecond⟩ ← readUnit afterLetter
    if isTrailingSurrogate second then
      return (Char.ofNat (0x10000 + (unit - 0xD800) * 0x400 + (second - 0xDC00)),
        ⟨afterSecond, by omega⟩)
    else
      throw (afterSecond.faultHere .loneSurrogate)
  else
    return (Char.ofNat unit, ⟨afterUnit, shortUnit⟩)

/-- The character that a letter behind a backslash stands for. -/
def escapeOf? : Char → Option Char
  | '"' => some '"'
  | '\\' => some '\\'
  | '/' => some '/'
  | 'b' => some '\x08'
  | 'f' => some '\x0c'
  | 'n' => some '\n'
  | 'r' => some '\r'
  | 't' => some '\t'
  | _ => none

/-- The character of an escape, behind the backslash. -/
def readEscape : Reader Char := fun cursor =>
  match unread : cursor.rest with
  | [] => .error (cursor.faultHere .endInString)
  | next :: _ =>
    match escapeOf? next with
    | some character => .ok (character, ⟨cursor.advance, Cursor.size_advance unread⟩)
    | none =>
      if next = 'u' then
        since (Cursor.size_advance_le unread) (readCodeUnits cursor.advance)
      else .error (cursor.faultAhead .badEscape)

/-- The rest of a string behind its opening quote; what is gathered so far is in reverse. -/
def readStringRest (gathered : List Char) (cursor : Cursor) :
    Except Fault (String × Beyond cursor) :=
  match unread : cursor.rest with
  | [] => .error (cursor.faultHere .endInString)
  | next :: _ =>
    have shorter : cursor.advance.size < cursor.size := Cursor.size_advance unread
    if next = '"' then .ok (String.ofList gathered.reverse, ⟨cursor.advance, shorter⟩)
    else if next = '\\' then
      match readEscape cursor.advance with
      | .error fault => .error fault
      | .ok (character, ⟨after, shortEscape⟩) =>
        since (by omega) (readStringRest (character :: gathered) after)
    else if next.toNat < 0x20 then .error (cursor.faultAhead .controlCharacter)
    else since (by omega) (readStringRest (next :: gathered) cursor.advance)
termination_by cursor.size

/-! ## Words -/

/-- The rest of a word behind its first letter. -/
def readWord (letters : List Char) (cursor : Cursor) :
    Except Fault { after : Cursor // after.size ≤ cursor.size } :=
  match letters with
  | [] => .ok ⟨cursor, Nat.le_refl _⟩
  | letter :: more =>
    match unread : cursor.rest with
    | [] => .error (cursor.faultHere .endInValue)
    | next :: _ =>
      if next = letter then
        match readWord more cursor.advance with
        | .error fault => .error fault
        | .ok ⟨after, bound⟩ =>
          .ok ⟨after, Nat.le_of_lt (Nat.lt_of_le_of_lt bound (Cursor.size_advance unread))⟩
      else .error (cursor.faultAhead .misspelledWord)

/-! ## Numbers -/

/-- The greatest significand that is gathered. -/
def significandLimit : Nat := 0xFFFFFFFFFFFFFFFF

/-- The greatest exponent that is gathered. -/
def exponentLimit : Nat := 0x7FFFFFFF

/-- A number as far as it is read: its significand and the power of ten it is scaled by. -/
structure Gathered where
  significand : Nat
  exponent : Int

/-- The value of a decimal digit. -/
def digitValue (character : Char) : Nat := character.toNat - '0'.toNat

/-- The cursor behind the digits that follow. -/
def Cursor.skipDigits (cursor : Cursor) : Cursor :=
  ⟨cursor.line, cursor.column + (cursor.rest.takeWhile Char.isDigit).length,
    cursor.rest.dropWhile Char.isDigit⟩

/-- Appends whole digits to a significand. From the first digit that does not fit on, each digit
only raises the exponent. -/
def gatherWhole (number : Gathered) : List Char → Gathered
  | [] => number
  | digit :: rest =>
    if 0 < number.exponent ∨ significandLimit < number.significand * 10 + digitValue digit then
      gatherWhole ⟨number.significand, number.exponent + 1⟩ rest
    else gatherWhole ⟨number.significand * 10 + digitValue digit, number.exponent⟩ rest

/-- Appends fractional digits to a significand. From the first digit that does not fit on, digits
are ignored. -/
def gatherFraction (number : Gathered) : List Char → Gathered
  | [] => number
  | digit :: rest =>
    if significandLimit < number.significand * 10 + digitValue digit then number
    else gatherFraction ⟨number.significand * 10 + digitValue digit, number.exponent - 1⟩ rest

/-- The exponent of digits, or the digits that are left after the one with which it grows too great.
-/
def gatherExponent (exponent : Nat) : List Char → Except (List Char) Nat
  | [] => .ok exponent
  | digit :: rest =>
    if exponentLimit < exponent * 10 + digitValue digit then .error rest
    else gatherExponent (exponent * 10 + digitValue digit) rest

/-- The float of a scaled significand. -/
def floatOf (negative : Bool) (number : Gathered) (cursor : Cursor) :
    Except Fault (Found × Cursor) :=
  match Decimal.Binary.ofScientific? number.significand number.exponent with
  | some magnitude => .ok (.float negative magnitude, cursor)
  | none => .error (cursor.faultHere .numberOutOfRange)

/-- The exponent part of a number, behind its letter. -/
def readExponent (negative : Bool) (number : Gathered) (cursor : Cursor) :
    Except Fault (Found × Cursor) :=
  let signed := match cursor.rest with
    | '+' :: _ => (false, cursor.advance)
    | '-' :: _ => (true, cursor.advance)
    | _ => (false, cursor)
  let (down, start) := signed
  match start.rest with
  | [] => .error (start.faultHere .endInValue)
  | first :: rest =>
    if first.isDigit then
      let digits := rest.takeWhile Char.isDigit
      match gatherExponent (digitValue first) digits with
      | .ok exponent =>
        let scaled := if down then number.exponent - exponent else number.exponent + exponent
        floatOf negative ⟨number.significand, scaled⟩ start.skipDigits
      | .error left =>
        let taken := digits.length - left.length
        let reached : Cursor := ⟨start.line, start.column + 1 + taken, rest.drop taken⟩
        if number.significand ≠ 0 ∧ !down then .error (reached.faultHere .numberOutOfRange)
        else .ok (.float negative Decimal.Binary.zero, start.skipDigits)
    else .error (start.faultAhead .badNumber)

/-- What may follow the digits of a number: an exponent, or nothing more. -/
def readScale (negative : Bool) (number : Gathered) (cursor : Cursor) :
    Except Fault (Found × Cursor) :=
  match cursor.rest with
  | 'e' :: _ | 'E' :: _ => readExponent negative number cursor.advance
  | _ => floatOf negative number cursor

/-- The fraction of a number, behind its point. -/
def readFraction (negative : Bool) (number : Gathered) (cursor : Cursor) :
    Except Fault (Found × Cursor) :=
  match cursor.rest.takeWhile Char.isDigit with
  | [] =>
    .error (cursor.faultAhead (if cursor.rest.isEmpty then .endInValue else .badNumber))
  | digits => readScale negative (gatherFraction number digits) cursor.skipDigits

/-- What follows the whole digits of a number. Whole numbers in the range of 64-bit words are
integers; minus zero and all others are floats. -/
def readNumberRest (negative : Bool) (number : Gathered) (cursor : Cursor) :
    Except Fault (Found × Cursor) :=
  match cursor.rest with
  | '.' :: _ => readFraction negative number cursor.advance
  | 'e' :: _ | 'E' :: _ => readExponent negative number cursor.advance
  | _ =>
    if 0 < number.exponent then floatOf negative number cursor
    else if !negative then .ok (.integer number.significand, cursor)
    else if number.significand = 0 ∨ 0x8000000000000000 < number.significand then
      floatOf true number cursor
    else .ok (.integer (-number.significand), cursor)

/-- A number behind its sign. -/
def readUnsigned (negative : Bool) (cursor : Cursor) : Except Fault (Found × Cursor) :=
  match cursor.rest with
  | [] => .error (cursor.faultHere .endInValue)
  | first :: rest =>
    if first = '0' then
      match rest with
      | next :: _ =>
        if next.isDigit then .error (cursor.advance.faultAhead .badNumber)
        else readNumberRest negative ⟨0, 0⟩ cursor.advance
      | [] => readNumberRest negative ⟨0, 0⟩ cursor.advance
    else if first.isDigit then
      readNumberRest negative (gatherWhole ⟨0, 0⟩ (cursor.rest.takeWhile Char.isDigit))
        cursor.skipDigits
    else .error (cursor.faultAhead .badNumber)

/-- A number from its sign or first digit on. -/
def readNumber (cursor : Cursor) : Except Fault (Found × Cursor) :=
  match cursor.rest with
  | '-' :: _ => readUnsigned true cursor.advance
  | _ => readUnsigned false cursor

/-! ## Values of the wrong type -/

/-- A value that stands where another type is expected. Lists and objects are not read. -/
def readFound (cursor : Cursor) : Except Fault (Found × Cursor) :=
  match cursor.rest with
  | 'n' :: _ => do
    let ⟨after, _⟩ ← readWord ['u', 'l', 'l'] cursor.advance
    return (.null, after)
  | 't' :: _ => do
    let ⟨after, _⟩ ← readWord ['r', 'u', 'e'] cursor.advance
    return (.boolean true, after)
  | 'f' :: _ => do
    let ⟨after, _⟩ ← readWord ['a', 'l', 's', 'e'] cursor.advance
    return (.boolean false, after)
  | '"' :: _ => do
    let ⟨text, after, _⟩ ← readStringRest [] cursor.advance
    return (.string text, after)
  | '[' :: _ => .ok (.list, cursor)
  | '\x7b' :: _ => .ok (.object, cursor)
  | next :: _ =>
    if next = '-' ∨ next.isDigit then readNumber cursor
    else .error (cursor.faultAhead .noValue)
  | [] => .error (cursor.faultAhead .endInValue)

/-- The fault of a value that cannot begin the expected type: the value's own first fault, or its
type. -/
def wrongType (expected : String) (cursor : Cursor) : Fault :=
  match readFound cursor with
  | .error fault => fault
  | .ok (found, after) => after.faultHere (.wrongType found expected)

/-! ## Values of the right type -/

/-- A string value. -/
def readString : Reader String := fun cursor =>
  let start := cursor.skipSpace
  have bound : start.size ≤ cursor.size := cursor.size_skipSpace
  match unread : start.rest with
  | '"' :: _ =>
    since (Nat.le_trans (Nat.le_of_lt (Cursor.size_advance unread)) bound)
      (readStringRest [] start.advance)
  | _ => .error (wrongType "a string" start)

/-- A Boolean value. -/
def readBoolean : Reader Bool := fun cursor =>
  let start := cursor.skipSpace
  have bound : start.size ≤ cursor.size := cursor.size_skipSpace
  match unread : start.rest with
  | 't' :: _ => do
    let ⟨after, shorter⟩ ← readWord ['r', 'u', 'e'] start.advance
    have smaller := Cursor.size_advance unread
    return (true, ⟨after, by omega⟩)
  | 'f' :: _ => do
    let ⟨after, shorter⟩ ← readWord ['a', 'l', 's', 'e'] start.advance
    have smaller := Cursor.size_advance unread
    return (false, ⟨after, by omega⟩)
  | _ => .error (wrongType "a boolean" start)

end SupervisoryLadder.Model
