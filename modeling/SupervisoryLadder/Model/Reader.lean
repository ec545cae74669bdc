import SupervisoryLadder.Model.Document
import SupervisoryLadder.Model.Scalar

/-!
# Reading a model document

The text is read strictly from left to right, driven by the type that is expected, and the first
fault is reported. A structure is written as an object, or as a list of its fields in order with
optional fields left out at the end. A fault of a structure as a whole, such as a missing field,
shows where the structure ends.
-/

namespace SupervisoryLadder.Model

/-! ## Lists -/

/-- Where a list goes on: it is closed, or an element begins. -/
inductive Turn (cursor : Cursor) where
  | closed (after : Cursor) (shorter : after.size < cursor.size)
  | element (start : Cursor) (bound : start.size ≤ cursor.size)

/-- Looks for the next element of a list, behind a comma unless it is the first one. -/
def readTurn (isFirst : Bool) (cursor : Cursor) : Except Fault (Turn cursor) :=
  let start := cursor.skipSpace
  have bound : start.size ≤ cursor.size := cursor.size_skipSpace
  match unread : start.rest with
  | [] => .error (start.faultAhead .endInList)
  | next :: _ =>
    have shorter := Cursor.size_advance unread
    if next = ']' then .ok (.closed start.advance (Cursor.size_advance_skipSpace unread))
    else if isFirst then .ok (.element start bound)
    else if next = ',' then
      let item := start.advance.skipSpace
      have itemBound : item.size ≤ start.advance.size := start.advance.size_skipSpace
      match item.rest with
      | [] => .error (item.faultAhead .endInValue)
      | ']' :: _ => .error (item.faultAhead .trailingComma)
      | _ => .ok (.element item (by omega))
    else .error (start.faultAhead .missingListComma)

/-- The elements of a list up to its end. -/
def readElements {α : Type} (read : Reader α) (isFirst : Bool) (cursor : Cursor) :
    Except Fault (List α × Beyond cursor) := do
  match ← readTurn isFirst cursor with
  | .closed after shorter => return ([], ⟨after, shorter⟩)
  | .element start bound =>
    let ⟨value, afterValue, shortValue⟩ ← read start
    let ⟨rest, after, shorter⟩ ← readElements read false afterValue
    return (value :: rest, ⟨after, by omega⟩)
termination_by cursor.size

/-- A list of values of one type. -/
def readList {α : Type} (read : Reader α) : Reader (List α) := fun cursor =>
  let start := cursor.skipSpace
  have bound : start.size ≤ cursor.size := cursor.size_skipSpace
  match unread : start.rest with
  | '[' :: _ =>
    since (Nat.le_trans (Nat.le_of_lt (Cursor.size_advance unread)) bound)
      (readElements read true start.advance)
  | _ => .error (wrongType "a sequence" start)

/-- The end of a list whose elements are all read. -/
def readListEnd : Reader Unit := fun cursor =>
  let start := cursor.skipSpace
  have bound : start.size ≤ cursor.size := cursor.size_skipSpace
  match unread : start.rest with
  | [] => .error (start.faultAhead .endInList)
  | ']' :: _ =>
    have shorter := Cursor.size_advance unread
    .ok ((), ⟨start.advance, by omega⟩)
  | ',' :: _ =>
    let item := start.advance.skipSpace
    match item.rest with
    | ']' :: _ => .error (item.faultAhead .trailingComma)
    | _ => .error (item.faultAhead .trailingCharacters)
  | _ => .error (start.faultAhead .trailingCharacters)

/-! ## Transitions -/

/-- The strings of a transition. -/
def readStrings (expected : String) (total read : Nat) (cursor : Cursor) :
    Except Fault (List String × { after : Cursor // after.size ≤ cursor.size }) := do
  if read < total then
    match ← readTurn (read == 0) cursor with
    | .closed after _ => throw (after.faultHere (.wrongLength read expected))
    | .element start bound =>
      let ⟨text, afterText, shortText⟩ ← readString start
      let ⟨rest, after, afterBound⟩ ← readStrings expected total (read + 1) afterText
      return (text :: rest, ⟨after, by omega⟩)
  else
    return ([], ⟨cursor, Nat.le_refl _⟩)
termination_by total - read

/-- A transition: origin, trigger and destination. -/
def readTransition : Reader TransitionEntry := fun cursor =>
  let start := cursor.skipSpace
  have bound : start.size ≤ cursor.size := cursor.size_skipSpace
  match unread : start.rest with
  | '[' :: _ => do
    have shorter := Cursor.size_advance unread
    let expected := "a tuple of size 3"
    let ⟨texts, afterTexts, textsBound⟩ ← readStrings expected 3 0 start.advance
    let ⟨_, after, shortEnd⟩ ← readListEnd afterTexts
    match texts with
    | [origin, trigger, destination] =>
      return (⟨origin, trigger, destination⟩, ⟨after, by omega⟩)
    | _ => throw (after.faultHere (.wrongLength texts.length expected))
  | _ => .error (wrongType "a tuple of size 3" start)

/-! ## Structures -/

/-- A field of a structure: how a draft of the structure takes it up. -/
structure Slot (δ : Type) where
  key : String
  isFilled : δ → Bool
  read : δ → Reader δ

/-- A structure: its fields in order, and how a draft becomes a value or lacks a field. -/
structure Shape (δ α : Type) where
  title : String
  slots : List (Slot δ)
  blank : δ
  finish : δ → Except String α

namespace Shape

variable {δ α : Type}

/-- What a list of the wrong length is told. -/
def lengthHint (shape : Shape δ α) : String :=
  shape.title ++ " with " ++ Nat.repr shape.slots.length ++ " elements"

/-- The fields of a structure that is written as a list, behind the opening bracket. -/
def readSlots (shape : Shape δ α) (slots : List (Slot δ)) (count : Nat) (draft : δ)
    (cursor : Cursor) : Except Fault (α × Beyond cursor) := do
  match slots with
  | [] =>
    let ⟨_, after, shorter⟩ ← readListEnd cursor
    match shape.finish draft with
    | .ok value => return (value, ⟨after, shorter⟩)
    | .error key => throw (after.faultHere (.missingField key))
  | slot :: rest =>
    match ← readTurn (count == 0) cursor with
    | .closed after shorter =>
      match shape.finish draft with
      | .ok value => return (value, ⟨after, shorter⟩)
      | .error _ => throw (after.faultHere (.wrongLength count shape.lengthHint))
    | .element start bound =>
      let ⟨filled, afterField, shortField⟩ ← slot.read draft start
      let ⟨value, after, shorter⟩ ← readSlots shape rest (count + 1) filled afterField
      return (value, ⟨after, by omega⟩)

/-- The fault of a field that does not belong there. It shows where the object would end: behind
white space and, if it comes next, the closing brace. -/
def fieldFault (cause : Cause) (cursor : Cursor) : Fault :=
  let start := cursor.skipSpace
  match start.rest with
  | '\x7d' :: _ => start.advance.faultHere cause
  | _ => start.faultHere cause

/-- The colon behind a key. -/
def readColon : Reader Unit := fun cursor =>
  let start := cursor.skipSpace
  have bound : start.size ≤ cursor.size := cursor.size_skipSpace
  match unread : start.rest with
  | [] => .error (start.faultAhead .endInObject)
  | ':' :: _ =>
    have shorter := Cursor.size_advance unread
    .ok ((), ⟨start.advance, by omega⟩)
  | _ => .error (start.faultAhead .missingColon)

/-- A key that is next. -/
def readKey : Reader String := fun cursor =>
  match unread : cursor.rest with
  | [] => .error (cursor.faultAhead .endInValue)
  | next :: _ =>
    if next = '"' then
      since (Cursor.size_advance_le unread) (readStringRest [] cursor.advance)
    else .error (cursor.faultAhead .keyNotString)

/-- A key behind the comma that is next. -/
def readLaterKey : Reader String := fun cursor =>
  match unread : cursor.rest with
  | ',' :: _ =>
    let start := cursor.advance.skipSpace
    have bound : start.size ≤ cursor.advance.size := cursor.advance.size_skipSpace
    have shorter := Cursor.size_advance unread
    match start.rest with
    | '\x7d' :: _ => .error (start.faultAhead .trailingComma)
    | _ => since (by omega) (readKey start)
  | _ => .error (cursor.faultAhead .missingObjectComma)

/-- The fields of a structure that is written as an object, behind the opening brace. -/
def readFields (shape : Shape δ α) (isFirst : Bool) (draft : δ) (cursor : Cursor) :
    Except Fault (α × Beyond cursor) := do
  let start := cursor.skipSpace
  have bound : start.size ≤ cursor.size := cursor.size_skipSpace
  match unread : start.rest with
  | [] => throw (start.faultAhead .endInObject)
  | '\x7d' :: _ =>
    have shorter := Cursor.size_advance unread
    match shape.finish draft with
    | .ok value => return (value, ⟨start.advance, by omega⟩)
    | .error key => throw (start.advance.faultHere (.missingField key))
  | _ =>
    let ⟨key, afterKey, shortKey⟩ ← if isFirst then readKey start else readLaterKey start
    match shape.slots.find? fun slot => slot.key == key with
    | none => throw (fieldFault (.unknownField key (shape.slots.map Slot.key)) afterKey)
    | some slot =>
      if slot.isFilled draft then throw (fieldFault (.duplicateField key) afterKey)
      let ⟨_, afterColon, shortColon⟩ ← readColon afterKey
      let ⟨filled, afterField, shortField⟩ ← slot.read draft afterColon
      let ⟨value, after, shorter⟩ ← readFields shape false filled afterField
      return (value, ⟨after, by omega⟩)
termination_by cursor.size

/-- A value of the structure. -/
def read (shape : Shape δ α) : Reader α := fun cursor =>
  let start := cursor.skipSpace
  have bound : start.size ≤ cursor.size := cursor.size_skipSpace
  match unread : start.rest with
  | '[' :: _ =>
    since (Nat.le_trans (Nat.le_of_lt (Cursor.size_advance unread)) bound)
      (readSlots shape shape.slots 0 shape.blank start.advance)
  | '\x7b' :: _ =>
    since (Nat.le_trans (Nat.le_of_lt (Cursor.size_advance unread)) bound)
      (readFields shape true shape.blank start.advance)
  | _ => .error (wrongType shape.title start)

end Shape

/-- A field that is read by a reader and put into the draft. -/
def slot {δ β : Type} (key : String) (get : δ → Option β) (put : δ → β → δ) (read : Reader β) :
    Slot δ where
  key := key
  isFilled := fun draft => (get draft).isSome
  read := fun draft cursor => do
    let ⟨value, after⟩ ← read cursor
    return (put draft value, after)

/-- A field that has to be there. -/
def required {β : Type} (key : String) : Option β → Except String β
  | some value => .ok value
  | none => .error key

/-! ## The structures of a model document -/

/-- The event entry as far as it is read. -/
structure EventDraft where
  name : Option String := none
  controllable : Option Bool := none

/-- An event of the global list; both fields are required. -/
def eventShape : Shape EventDraft EventEntry where
  title := "struct EventDecl"
  slots := [
    slot "name" EventDraft.name (fun draft value => { draft with name := some value }) readString,
    slot "controllable" EventDraft.controllable
      (fun draft value => { draft with controllable := some value }) readBoolean]
  blank := {}
  finish := fun draft => do
    return ⟨← required "name" draft.name, ← required "controllable" draft.controllable⟩

/-- The state entry as far as it is read. -/
structure StateDraft where
  name : Option String := none
  marked : Option Bool := none

/-- A declared state; the mark may be left out. -/
def stateShape : Shape StateDraft StateEntry where
  title := "struct StateDecl"
  slots := [
    slot "name" StateDraft.name (fun draft value => { draft with name := some value }) readString,
    slot "marked" StateDraft.marked (fun draft value => { draft with marked := some value })
      readBoolean]
  blank := {}
  finish := fun draft => do
    return ⟨← required "name" draft.name, draft.marked.getD false⟩

/-- The automaton entry as far as it is read. -/
structure AutomatonDraft where
  name : Option String := none
  initial : Option String := none
  states : Option (List StateEntry) := none
  events : Option (List String) := none
  transitions : Option (List TransitionEntry) := none

/-- An automaton; the lists may be left out. -/
def automatonShape : Shape AutomatonDraft AutomatonEntry where
  title := "struct AutomatonDecl"
  slots := [
    slot "name" AutomatonDraft.name (fun draft value => { draft with name := some value })
      readString,
    slot "initial" AutomatonDraft.initial (fun draft value => { draft with initial := some value })
      readString,
    slot "states" AutomatonDraft.states (fun draft value => { draft with states := some value })
      (readList stateShape.read),
    slot "events" AutomatonDraft.events (fun draft value => { draft with events := some value })
      (readList readString),
    slot "transitions" AutomatonDraft.transitions
      (fun draft value => { draft with transitions := some value }) (readList readTransition)]
  blank := {}
  finish := fun draft => do
    return {
      name := ← required "name" draft.name
      initial := ← required "initial" draft.initial
      states := draft.states.getD []
      events := draft.events.getD []
      transitions := draft.transitions.getD [] }

/-- The document as far as it is read. -/
structure DocumentDraft where
  events : Option (List EventEntry) := none
  supervisors : Option (List AutomatonEntry) := none
  plants : Option (List AutomatonEntry) := none

/-- A document; all lists may be left out. -/
def documentShape : Shape DocumentDraft Document where
  title := "struct ModelDocument"
  slots := [
    slot "events" DocumentDraft.events (fun draft value => { draft with events := some value })
      (readList eventShape.read),
    slot "supervisors" DocumentDraft.supervisors
      (fun draft value => { draft with supervisors := some value }) (readList automatonShape.read),
    slot "plants" DocumentDraft.plants (fun draft value => { draft with plants := some value })
      (readList automatonShape.read)]
  blank := {}
  finish := fun draft =>
    .ok ⟨draft.events.getD [], draft.supervisors.getD [], draft.plants.getD []⟩

/-- The document of a text: one document value, with only white space behind it. -/
def Document.read (text : String) : Except Fault Document := do
  let ⟨document, after, _⟩ ← documentShape.read (Cursor.ofText text)
  let rest := after.skipSpace
  if rest.rest.isEmpty then return document
  else throw (rest.faultAhead .trailingCharacters)

end SupervisoryLadder.Model
