/-!
# XML trees and their text

An element has attributes and either child elements or a text, never both. The text of a tree can be
laid out with one element on a line; texts are kept on the line of their element, so that the layout
never adds to them.
-/

namespace SupervisoryLadder.Xml

/-- An element: with child elements, or with a text. -/
inductive Tree where
  | branch (tag : String) (attributes : List (String × String)) (children : List Tree)
  | leaf (tag : String) (attributes : List (String × String)) (text : String)

/-- A character of a text. -/
def escapeTextCharacter (character : Char) : List Char :=
  if character = '&' then ['&', 'a', 'm', 'p', ';']
  else if character = '<' then ['&', 'l', 't', ';']
  else if character = '>' then ['&', 'g', 't', ';']
  else [character]

/-- A character of an attribute value, where also the quote has to be escaped. -/
def escapeValueCharacter (character : Char) : List Char :=
  if character = '"' then ['&', 'q', 'u', 'o', 't', ';'] else escapeTextCharacter character

/-- The characters of an attribute, with the space before it. -/
def attributeText (entry : String × String) : List Char :=
  ' ' :: entry.1.toList ++ ['=', '"'] ++
    entry.2.toList.flatMap escapeValueCharacter ++ ['"']

/-- The name and the attributes of a tag. -/
def openingText (tag : String) (attributes : List (String × String)) : List Char :=
  '<' :: tag.toList ++ attributes.flatMap attributeText

/-- The closing tag. -/
def closingText (tag : String) : List Char := ['<', '/'] ++ tag.toList ++ ['>']

/-- What stands between two elements at a depth: nothing, or a new line and its indentation. -/
def gap (indent : Option Nat) (depth : Nat) : List Char :=
  match indent with
  | none => []
  | some width => '\n' :: List.replicate (width * depth) ' '

mutual

/-- The characters of a tree at a depth. An element without content closes itself. -/
def Tree.characters (indent : Option Nat) (depth : Nat) : Tree → List Char
  | .branch tag attributes children =>
    if children.isEmpty then openingText tag attributes ++ ['/', '>']
    else openingText tag attributes ++ '>' :: childCharacters indent (depth + 1) children ++
      gap indent depth ++ closingText tag
  | .leaf tag attributes text =>
    if text.isEmpty then openingText tag attributes ++ ['/', '>']
    else openingText tag attributes ++ '>' :: text.toList.flatMap escapeTextCharacter ++
      closingText tag

/-- The characters of child elements, each behind its gap. -/
def childCharacters (indent : Option Nat) (depth : Nat) : List Tree → List Char
  | [] => []
  | child :: rest =>
    gap indent depth ++ child.characters indent depth ++ childCharacters indent depth rest

end

/-- The text of a tree: on one line, or with every element on a line of its own, indented by so many
spaces for each element around it. -/
def Tree.render (indent : Option Nat) (tree : Tree) : String :=
  String.ofList (tree.characters indent 0)

end SupervisoryLadder.Xml
