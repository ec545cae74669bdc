import SupervisoryLadder.Xml.Tree

/-!
# Reading the text of a tree

A reader passes once over the characters of a text. It keeps the elements that are open, innermost
first, each with the text and the children that it has so far. The end of a tag opens an element,
closes the innermost one, or adds an element without content to it.

A text does not tell an element without children from one with an empty text, so what is read is a
`Node`, which has both. Text beside child elements is layout and is left out. A tree whose tags and
attributes have proper names is read back from its text at every indentation: escaping keeps the
characters that bound tags and values out of them, whatever the values are.
-/

namespace SupervisoryLadder.Xml

/-- An element as it is read. -/
structure Node where
  tag : String
  attributes : List (String × String)
  text : String
  children : List Node

mutual

/-- What a tree is read as. -/
def Tree.node : Tree → Node
  | .branch tag attributes children => ⟨tag, attributes, "", childNodes children⟩
  | .leaf tag attributes text => ⟨tag, attributes, text, []⟩

/-- What child elements are read as. -/
def childNodes : List Tree → List Node
  | [] => []
  | child :: rest => child.node :: childNodes rest

end

theorem childNodes_eq_map (trees : List Tree) : childNodes trees = trees.map Tree.node := by
  induction trees with
  | nil => rfl
  | cons tree rest inductionHypothesis => rw [childNodes, inductionHypothesis, List.map_cons]

/-! ## Escapes -/

/-- Undoes the escapes of a text or a value. -/
def unescape : List Char → List Char
  | '&' :: 'a' :: 'm' :: 'p' :: ';' :: rest => '&' :: unescape rest
  | '&' :: 'l' :: 't' :: ';' :: rest => '<' :: unescape rest
  | '&' :: 'g' :: 't' :: ';' :: rest => '>' :: unescape rest
  | '&' :: 'q' :: 'u' :: 'o' :: 't' :: ';' :: rest => '"' :: unescape rest
  | character :: rest => character :: unescape rest
  | [] => []

theorem unescape_plain {character : Char} (plain : character ≠ '&') (rest : List Char) :
    unescape (character :: rest) = character :: unescape rest := by
  rw [unescape] <;> simp [plain]

theorem unescape_textCharacter (character : Char) (rest : List Char) :
    unescape (escapeTextCharacter character ++ rest) = character :: unescape rest := by
  unfold escapeTextCharacter
  split
  · next ampersand => simp [ampersand, unescape]
  · next plain =>
    split
    · next less => simp [less, unescape]
    · split
      · next greater => simp [greater, unescape]
      · exact unescape_plain plain rest

theorem unescape_valueCharacter (character : Char) (rest : List Char) :
    unescape (escapeValueCharacter character ++ rest) = character :: unescape rest := by
  unfold escapeValueCharacter
  split
  · next quote => simp [quote, unescape]
  · exact unescape_textCharacter character rest

/-- An escape that is undone character by character is undone in every text. -/
theorem unescape_flatMap {escape : Char → List Char}
    (undone : ∀ character rest, unescape (escape character ++ rest) = character :: unescape rest)
    (characters : List Char) : unescape (characters.flatMap escape) = characters := by
  induction characters with
  | nil => rfl
  | cons character rest inductionHypothesis =>
    rw [List.flatMap_cons, undone, inductionHypothesis]

/-- Escaped texts have no character that bounds a tag. -/
theorem unbounded_textCharacter (character : Char) :
    '<' ∉ escapeTextCharacter character ∧ '>' ∉ escapeTextCharacter character := by
  unfold escapeTextCharacter
  split
  · decide
  · split
    · decide
    · split
      · decide
      · next notLess notGreater => simp [Ne.symm notLess, Ne.symm notGreater]

/-- Escaped values have neither such a character nor a quote. -/
theorem unbounded_valueCharacter (character : Char) :
    '"' ∉ escapeValueCharacter character ∧ '<' ∉ escapeValueCharacter character ∧
      '>' ∉ escapeValueCharacter character := by
  unfold escapeValueCharacter
  split
  · decide
  · next notQuote =>
    refine ⟨?_, unbounded_textCharacter character⟩
    unfold escapeTextCharacter
    split
    · decide
    · split
      · decide
      · split
        · decide
        · simp [Ne.symm notQuote]

/-! ## Tags -/

/-- The name of an attribute, from what stands between the value before it and its own value. -/
def attributeName : List Char → Option String
  | ' ' :: characters =>
    if characters.getLast? = some '=' then some (String.ofList characters.dropLast) else none
  | _ => none

/-- The attributes in the pieces that the quotes of a tag bound: names and values in turn, and
nothing behind the last value. -/
def attributesOf : List (List Char) → Option (List (String × String))
  | [[]] => some []
  | piece :: value :: rest => do
    let name ← attributeName piece
    let others ← attributesOf rest
    return (name, String.ofList (unescape value)) :: others
  | _ => none

/-- The name and the attributes of a tag, from its characters. -/
def openingOf (characters : List Char) : Option (String × List (String × String)) := do
  let attributes ← attributesOf ((characters.dropWhile (· != ' ')).splitOn '"')
  return (String.ofList (characters.takeWhile (· != ' ')), attributes)

/-- A proper name of an element or of an attribute. -/
def IsName (name : String) : Prop :=
  name.toList ≠ [] ∧ ∀ character ∈ name.toList, character.isAlpha = true

instance (name : String) : Decidable (IsName name) := inferInstanceAs (Decidable (_ ∧ _))

/-- No other character than a letter is in a name. -/
theorem IsName.not_mem {name : String} (proper : IsName name) (character : Char)
    (other : character.isAlpha = false) : character ∉ name.toList := by
  intro member
  simp [proper.2 character member] at other

theorem IsName.head {name : String} (proper : IsName name) :
    ∃ first rest, name.toList = first :: rest ∧ first.isAlpha = true := by
  obtain ⟨first, rest, shape⟩ := List.exists_cons_of_ne_nil proper.1
  exact ⟨first, rest, shape, proper.2 first (by simp [shape])⟩

section Attributes

variable {attributes : List (String × String)} (proper : ∀ entry ∈ attributes, IsName entry.1)
include proper

theorem attributesOf_attributeText :
    attributesOf ((attributes.flatMap attributeText).splitOn '"') = some attributes := by
  induction attributes with
  | nil => rfl
  | cons entry rest inductionHypothesis =>
    have named := proper entry List.mem_cons_self
    have unquotedName : '"' ∉ ' ' :: entry.1.toList ++ ['='] := by
      simpa using named.not_mem '"' (by decide)
    have unquotedValue : '"' ∉ entry.2.toList.flatMap escapeValueCharacter := by
      simp only [List.mem_flatMap, not_exists, not_and]
      exact fun character _ => (unbounded_valueCharacter character).1
    have shape : (entry :: rest).flatMap attributeText =
        (' ' :: entry.1.toList ++ ['=']) ++ '"' :: (entry.2.toList.flatMap escapeValueCharacter ++
          '"' :: rest.flatMap attributeText) := by
      simp [attributeText]
    have name : attributeName (' ' :: entry.1.toList ++ ['=']) = some entry.1 := by
      simp [attributeName]
    rw [shape, List.splitOn_append_cons_self_of_not_mem unquotedName,
      List.splitOn_append_cons_self_of_not_mem unquotedValue, attributesOf, name,
      inductionHypothesis fun other member => proper other (List.mem_cons_of_mem _ member),
      unescape_flatMap unescape_valueCharacter]
    simp

/-- The end of a tag is not in its attributes. -/
theorem greater_not_mem_attributes : '>' ∉ attributes.flatMap attributeText := by
  simp only [List.mem_flatMap, not_exists, not_and]
  intro entry member
  have inName := (proper entry member).not_mem '>' (by decide)
  have inValue : '>' ∉ entry.2.toList.flatMap escapeValueCharacter := by
    simp only [List.mem_flatMap, not_exists, not_and]
    exact fun character _ => (unbounded_valueCharacter character).2.2
  simp [attributeText, inName, inValue]

end Attributes

/-- What stands in a tag, between its bounds. -/
def tagCharacters (tag : String) (attributes : List (String × String)) : List Char :=
  tag.toList ++ attributes.flatMap attributeText

section Tags

variable {tag : String} (proper : IsName tag) {attributes : List (String × String)}
  (properAttributes : ∀ entry ∈ attributes, IsName entry.1)
include proper properAttributes

/-- The name and the attributes are read back from a tag. -/
theorem openingOf_tagCharacters :
    openingOf (tagCharacters tag attributes) = some (tag, attributes) := by
  have unspaced : ∀ character ∈ tag.toList, (character != ' ') = true := by
    intro character member
    have apart : character ≠ ' ' := fun same =>
      proper.not_mem ' ' (by decide) (same ▸ member)
    simpa using apart
  have spaced : (attributes.flatMap attributeText).takeWhile (· != ' ') = [] ∧
      (attributes.flatMap attributeText).dropWhile (· != ' ') =
        attributes.flatMap attributeText := by
    cases attributes with
    | nil => exact ⟨rfl, rfl⟩
    | cons entry rest => simp [attributeText]
  rw [openingOf, tagCharacters, List.dropWhile_append_of_pos unspaced,
    List.takeWhile_append_of_pos unspaced, spaced.1, spaced.2,
    attributesOf_attributeText properAttributes]
  simp

/-- A tag does not end like one that closes itself. -/
theorem getLast_tagCharacters : (tagCharacters tag attributes).getLast? ≠ some '/' := by
  intro last
  rcases List.eq_nil_or_concat attributes with rfl | ⟨front, entry, rfl⟩
  · simp only [tagCharacters, List.flatMap_nil, List.append_nil] at last
    exact proper.not_mem '/' (by decide) (List.mem_of_getLast? last)
  · simp [tagCharacters, attributeText, List.getLast?_cons] at last

/-- The end of a tag is not in it. -/
theorem greater_not_mem_tag : '>' ∉ tagCharacters tag attributes := by
  simp only [tagCharacters, List.mem_append, not_or]
  exact ⟨proper.not_mem '>' (by decide), greater_not_mem_attributes properAttributes⟩

end Tags

/-! ## Readers -/

/-- An element that is open. -/
structure Frame where
  tag : String
  attributes : List (String × String)
  text : List Char := []
  children : List Node := []

namespace Frame

/-- The element when it is closed. -/
def node (frame : Frame) : Node where
  tag := frame.tag
  attributes := frame.attributes
  text := if frame.children.isEmpty then String.ofList (unescape frame.text) else ""
  children := frame.children

/-- One more text. -/
def write (frame : Frame) (characters : List Char) : Frame :=
  { frame with text := frame.text ++ characters }

/-- One more child. -/
def add (frame : Frame) (child : Node) : Frame :=
  { frame with children := frame.children ++ [child] }

end Frame

/-- Adds a child to the innermost open element. -/
def addChild (child : Node) : List Frame → Option (List Frame)
  | [] => none
  | parent :: rest => some (parent.add child :: rest)

/-- The end of a tag that opens an element, or that is an element without content. -/
def endOpening (frames : List Frame) (characters : List Char) : Option (List Frame) :=
  if characters.getLast? = some '/' then do
    let (tag, attributes) ← openingOf characters.dropLast
    addChild ⟨tag, attributes, "", []⟩ frames
  else do
    let (tag, attributes) ← openingOf characters
    return { tag, attributes } :: frames

/-- The end of a tag that closes the innermost element. -/
def endClosing (name : List Char) : List Frame → Option (List Frame)
  | [] => none
  | frame :: rest => if frame.tag.toList = name then addChild frame.node rest else none

/-- What the end of a tag does to the open elements, innermost first. A declaration is passed
over. -/
def endTag (frames : List Frame) : List Char → Option (List Frame)
  | '?' :: _ => some frames
  | '/' :: name => endClosing name frames
  | characters => endOpening frames characters

/-- A reader: the characters of the tag that it is in, if it is in one, and the open elements. -/
structure Reader where
  tag : Option (List Char)
  frames : List Frame

namespace Reader

/-- Reads a character. -/
def step (reader : Reader) (character : Char) : Option Reader :=
  match reader.tag, reader.frames with
  | some read, frames =>
    if character = '>' then (endTag frames read).map (⟨none, ·⟩)
    else some ⟨some (read ++ [character]), frames⟩
  | none, frame :: rest =>
    if character = '<' then some ⟨some [], frame :: rest⟩
    else some ⟨none, frame.write [character] :: rest⟩
  | none, [] => none

/-- Reads a text. -/
def run (reader : Reader) (characters : List Char) : Option Reader :=
  characters.foldlM step reader

theorem run_append (reader : Reader) (front back : List Char) :
    reader.run (front ++ back) = (reader.run front).bind (·.run back) :=
  List.foldlM_append

/-- Outside of tags characters are text. -/
theorem run_text (frame : Frame) (frames : List Frame) {characters : List Char}
    (plain : '<' ∉ characters) :
    run ⟨none, frame :: frames⟩ characters = some ⟨none, frame.write characters :: frames⟩ := by
  induction characters generalizing frame with
  | nil => simp [run, Frame.write]
  | cons character rest inductionHypothesis =>
    rw [List.mem_cons, not_or] at plain
    have stepped : step ⟨none, frame :: frames⟩ character =
        some ⟨none, frame.write [character] :: frames⟩ := if_neg (Ne.symm plain.1)
    rw [run, List.foldlM_cons, stepped]
    refine (inductionHypothesis (frame.write [character]) plain.2).trans ?_
    simp [Frame.write]

/-- Inside of a tag characters are gathered. -/
theorem run_tag (read : List Char) (frames : List Frame) {characters : List Char}
    (inside : '>' ∉ characters) :
    run ⟨some read, frames⟩ characters = some ⟨some (read ++ characters), frames⟩ := by
  induction characters generalizing read with
  | nil => simp [run]
  | cons character rest inductionHypothesis =>
    rw [List.mem_cons, not_or] at inside
    have stepped : step ⟨some read, frames⟩ character =
        some ⟨some (read ++ [character]), frames⟩ := if_neg (Ne.symm inside.1)
    rw [run, List.foldlM_cons, stepped]
    refine (inductionHypothesis (read ++ [character]) inside.2).trans ?_
    simp

/-- A whole tag has the effect of its end. -/
theorem run_markup (frame : Frame) (frames : List Frame) {characters : List Char}
    (inside : '>' ∉ characters) :
    run ⟨none, frame :: frames⟩ ('<' :: characters ++ ['>']) =
      (endTag (frame :: frames) characters).map (⟨none, ·⟩) := by
  rw [run_append]
  have gathered : run ⟨none, frame :: frames⟩ ('<' :: characters) =
      some ⟨some characters, frame :: frames⟩ := run_tag [] (frame :: frames) inside
  rw [gathered]
  simp [run, step]

end Reader

/-- The element in a text. -/
def parse (text : String) : Option Node := do
  let reader ← Reader.run ⟨none, [{ tag := "", attributes := [] }]⟩ text.toList
  match reader with
  | ⟨none, [⟨_, _, _, [root]⟩]⟩ => some root
  | _ => none

/-! ## Trees -/

/-- A tree whose elements and attributes have proper names. -/
inductive Tree.Named : Tree → Prop
  | branch {tag : String} {attributes : List (String × String)} {children : List Tree}
      (proper : IsName tag) (properAttributes : ∀ entry ∈ attributes, IsName entry.1)
      (namedChildren : ∀ child ∈ children, Named child) : Named (.branch tag attributes children)
  | leaf {tag : String} {attributes : List (String × String)} {text : String}
      (proper : IsName tag) (properAttributes : ∀ entry ∈ attributes, IsName entry.1) :
      Named (.leaf tag attributes text)

theorem Tree.named_branch_iff {tag : String} {attributes : List (String × String)}
    {children : List Tree} : (Tree.branch tag attributes children).Named ↔
      IsName tag ∧ (∀ entry ∈ attributes, IsName entry.1) ∧ ∀ child ∈ children, child.Named :=
  ⟨fun | .branch proper properAttributes named => ⟨proper, properAttributes, named⟩,
    fun ⟨proper, properAttributes, named⟩ => .branch proper properAttributes named⟩

theorem Tree.named_leaf_iff {tag : String} {attributes : List (String × String)} {text : String} :
    (Tree.leaf tag attributes text).Named ↔ IsName tag ∧ ∀ entry ∈ attributes, IsName entry.1 :=
  ⟨fun | .leaf proper properAttributes => ⟨proper, properAttributes⟩,
    fun ⟨proper, properAttributes⟩ => .leaf proper properAttributes⟩

section Elements

variable {tag : String} (proper : IsName tag) {attributes : List (String × String)}
  (properAttributes : ∀ entry ∈ attributes, IsName entry.1) (parent : Frame) (frames : List Frame)
include proper

theorem endTag_tagCharacters (behind : List Char) :
    endTag frames (tagCharacters tag attributes ++ behind) =
      endOpening frames (tagCharacters tag attributes ++ behind) := by
  obtain ⟨first, rest, shape, letter⟩ := proper.head
  have notMark : first ≠ '?' := by rintro rfl; simp at letter
  have notSlash : first ≠ '/' := by rintro rfl; simp at letter
  rw [tagCharacters, shape, List.cons_append, List.cons_append, endTag]
  · simp [notMark]
  · simp [notSlash]

include properAttributes

/-- An opening tag opens an element. -/
theorem run_opening :
    Reader.run ⟨none, parent :: frames⟩ (openingText tag attributes ++ ['>']) =
      some ⟨none, { tag, attributes } :: parent :: frames⟩ := by
  have shape : openingText tag attributes = '<' :: tagCharacters tag attributes := rfl
  rw [shape, Reader.run_markup parent frames (greater_not_mem_tag proper properAttributes)]
  have same : endTag (parent :: frames) (tagCharacters tag attributes ++ []) = _ :=
    endTag_tagCharacters proper (parent :: frames) []
  rw [List.append_nil] at same
  rw [same, endOpening, if_neg (getLast_tagCharacters proper properAttributes),
    openingOf_tagCharacters proper properAttributes]
  rfl

/-- An element without content is added to the element around it. -/
theorem run_selfClosing :
    Reader.run ⟨none, parent :: frames⟩ (openingText tag attributes ++ ['/', '>']) =
      some ⟨none, parent.add ⟨tag, attributes, "", []⟩ :: frames⟩ := by
  have shape : openingText tag attributes ++ ['/', '>'] =
      '<' :: (tagCharacters tag attributes ++ ['/']) ++ ['>'] := by
    simp [openingText, tagCharacters]
  have inside : '>' ∉ tagCharacters tag attributes ++ ['/'] := by
    simpa using greater_not_mem_tag proper properAttributes
  rw [shape, Reader.run_markup parent frames inside, endTag_tagCharacters proper, endOpening,
    if_pos (by simp), List.dropLast_concat, openingOf_tagCharacters proper properAttributes]
  rfl

omit properAttributes in
/-- A closing tag adds the innermost element to the one around it. -/
theorem run_closing {frame : Frame} (innermost : frame.tag = tag) :
    Reader.run ⟨none, frame :: parent :: frames⟩ (closingText tag) =
      some ⟨none, parent.add frame.node :: frames⟩ := by
  have inside : '>' ∉ '/' :: tag.toList := by
    simpa using proper.not_mem '>' (by decide)
  have shape : closingText tag = '<' :: ('/' :: tag.toList) ++ ['>'] := by simp [closingText]
  rw [shape, Reader.run_markup frame (parent :: frames) inside]
  simp [endTag, endClosing, addChild, innermost]

end Elements

theorem less_not_mem_gap (indent : Option Nat) (depth : Nat) : '<' ∉ gap indent depth := by
  cases indent with
  | none => simp [gap]
  | some width => simp [gap]

/-- Child elements are added in order, and the gaps between them are text. -/
theorem run_children (indent : Option Nat) (depth : Nat) {children : List Tree}
    (each : ∀ child ∈ children, ∀ (parent : Frame) (frames : List Frame),
      Reader.run ⟨none, parent :: frames⟩ (child.characters indent depth) =
        some ⟨none, parent.add child.node :: frames⟩)
    (parent : Frame) (frames : List Frame) :
    ∃ text, Reader.run ⟨none, parent :: frames⟩ (childCharacters indent depth children) =
      some ⟨none, { parent with
        text, children := parent.children ++ childNodes children } :: frames⟩ := by
  induction children generalizing parent with
  | nil => exact ⟨parent.text, by simp [childCharacters, childNodes, Reader.run]⟩
  | cons child rest inductionHypothesis =>
    obtain ⟨text, behind⟩ := inductionHypothesis
      (fun other member => each other (List.mem_cons_of_mem _ member))
      ((parent.write (gap indent depth)).add child.node)
    refine ⟨text, ?_⟩
    rw [childCharacters, Reader.run_append, Reader.run_append,
      Reader.run_text _ _ (less_not_mem_gap indent depth), Option.bind_some,
      each child List.mem_cons_self, Option.bind_some, behind]
    simp [Frame.add, Frame.write, childNodes]

/-- The text of a tree is read as its node, by induction on the tree. -/
theorem Tree.Named.run {tree : Tree} (named : tree.Named) (indent : Option Nat) (depth : Nat)
    (parent : Frame) (frames : List Frame) :
    Reader.run ⟨none, parent :: frames⟩ (tree.characters indent depth) =
      some ⟨none, parent.add tree.node :: frames⟩ := by
  induction named generalizing depth parent frames with
  | @branch tag attributes children proper properAttributes _ inductionHypothesis =>
    cases children with
    | nil => exact run_selfClosing proper properAttributes parent frames
    | cons child rest =>
      have shape : (Tree.branch tag attributes (child :: rest)).characters indent depth =
          (openingText tag attributes ++ ['>']) ++ (childCharacters indent (depth + 1)
            (child :: rest) ++ (gap indent depth ++ closingText tag)) := by
        simp [Tree.characters]
      obtain ⟨text, inner⟩ := run_children indent (depth + 1)
        (fun other member => inductionHypothesis other member (depth + 1))
        { tag, attributes } (parent :: frames)
      rw [shape, Reader.run_append, run_opening proper properAttributes, Option.bind_some,
        Reader.run_append, inner, Option.bind_some, Reader.run_append,
        Reader.run_text _ _ (less_not_mem_gap indent depth), Option.bind_some,
        run_closing proper]
      · simp [Frame.node, Frame.write, Tree.node, childNodes]
      · rfl
  | @leaf tag attributes text proper properAttributes =>
    rw [Tree.characters]
    split
    · next empty =>
      rw [String.isEmpty_iff.mp empty]
      exact run_selfClosing proper properAttributes parent frames
    · have plain : '<' ∉ text.toList.flatMap escapeTextCharacter := by
        simp only [List.mem_flatMap, not_exists, not_and]
        exact fun character _ => (unbounded_textCharacter character).1
      have shape : openingText tag attributes ++ '>' :: text.toList.flatMap escapeTextCharacter ++
          closingText tag = (openingText tag attributes ++ ['>']) ++
            (text.toList.flatMap escapeTextCharacter ++ closingText tag) := by simp
      rw [shape, Reader.run_append, run_opening proper properAttributes, Option.bind_some,
        Reader.run_append, Reader.run_text _ _ plain, Option.bind_some, run_closing proper]
      · simp [Frame.node, Frame.write, Tree.node, unescape_flatMap unescape_textCharacter]
      · rfl

/-- A tree is read back from its text, behind a declaration and between texts without markup. -/
theorem parse_render {tree : Tree} (named : tree.Named) (indent : Option Nat)
    (declaration before after : String) (inside : '>' ∉ declaration.toList)
    (plainBefore : '<' ∉ before.toList) (plainAfter : '<' ∉ after.toList) :
    parse ("<?" ++ declaration ++ ">" ++ before ++ tree.render indent ++ after) =
      some tree.node := by
  have characters : ("<?" ++ declaration ++ ">" ++ before ++ tree.render indent ++ after).toList =
      '<' :: ('?' :: declaration.toList) ++ ['>'] ++ before.toList ++ tree.characters indent 0 ++
        after.toList := by
    simp [Tree.render]
  have declared (frame : Frame) :
      Reader.run ⟨none, [frame]⟩ ('<' :: ('?' :: declaration.toList) ++ ['>']) =
        some ⟨none, [frame]⟩ :=
    Reader.run_markup frame [] (by simpa using inside)
  rw [parse, characters, Reader.run_append, Reader.run_append, Reader.run_append, declared,
    Option.bind_some, Reader.run_text _ _ plainBefore, Option.bind_some, named.run,
    Option.bind_some, Reader.run_text _ _ plainAfter]
  simp [Frame.add, Frame.write]

end SupervisoryLadder.Xml
