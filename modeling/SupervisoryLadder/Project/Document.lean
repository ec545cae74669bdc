import SupervisoryLadder.Ladder.Element
import SupervisoryLadder.Xml.Tree

/-!
# Project documents

A project document is what development environments for programmable controllers import: headers,
one or more program units with their variables and diagram, and blocks of vendor data. Every type
has the XML tree it is written as; attributes and children are in the order that the schema of the
exchange format gives.
-/

namespace SupervisoryLadder.Project

open Xml

/-! ## Namespaces and names of vendor data -/

/-- The namespace of the exchange format. -/
def formatNamespace : String := "http://www.plcopen.org/xml/tc6_0200"

/-- The namespace of formatted text. -/
def textNamespace : String := "http://www.w3.org/1999/xhtml"

/-- The vendor data that holds project information. -/
def informationName : String := "http://www.3s-software.com/plcopenxml/projectinformation"

/-- The vendor data that holds the tree of project objects. -/
def structureName : String := "http://www.3s-software.com/plcopenxml/projectstructure"

/-- The vendor data that holds the type of a vendor's diagram element. -/
def elementTypeName : String := "http://www.3s-software.com/plcopenxml/fbdelementtype"

/-! ## Vendor data -/

/-- What an importer that does not know a block does with it. -/
inductive Handling where
  | discard
  | implementation
  deriving DecidableEq

/-- An object of the project tree. -/
structure ProjectObject where
  name : String
  id : String
  deriving DecidableEq

/-- What a block of vendor data holds. -/
inductive Payload where
  | information
  | objectTree (objects : List ProjectObject)
  | elementType (name : String)
  deriving DecidableEq

/-- A block of vendor data. -/
structure Block where
  name : String
  handling : Handling
  payload : Payload
  deriving DecidableEq

/-- The text of a handling. -/
def Handling.text : Handling → String
  | discard => "discard"
  | implementation => "implementation"

/-- The tree of an object. -/
def ProjectObject.tree (object : ProjectObject) : Tree :=
  .branch "Object" [("Name", object.name), ("ObjectId", object.id)] []

/-- The tree of a payload. -/
def Payload.tree : Payload → Tree
  | information => .branch "ProjectInformation" [] []
  | objectTree objects => .branch "ProjectStructure" [] (objects.map ProjectObject.tree)
  | elementType name => .leaf "ElementType" [] name

/-- The tree of a block under a tag. -/
def Block.tree (tag : String) (block : Block) : Tree :=
  .branch tag [("name", block.name), ("handleUnknown", block.handling.text)] [block.payload.tree]

/-- The tree of several blocks under a tag. -/
def blocksTree (tag : String) (blocks : List Block) : Tree :=
  .branch tag [] (blocks.map (Block.tree "data"))

/-! ## Diagram elements -/

/-- A place in the diagram. -/
structure Place where
  x : Int := 0
  y : Int := 0
  deriving DecidableEq

/-- What is drawn for an element. Inputs are the ids of the elements that feed it; an output may
name a formal parameter. -/
inductive Symbol where
  | leftRail (output : Option String)
  | rightRail (inputs : List Nat)
  | label (text : String)
  | jump (text : String) (inputs : List Nat)
  | comment
  | vendor (blocks : List Block)
  | contact (negated : Bool) (storage : Ladder.Storage) (inputs : List Nat)
      (output : Option String) (operand : String)
  | coil (negated : Bool) (storage : Ladder.Storage) (inputs : List Nat)
      (output : Option String) (operand : String)
  deriving DecidableEq

/-- An element of a diagram. -/
structure DiagramElement where
  id : Nat
  place : Place
  symbol : Symbol
  deriving DecidableEq

/-- The text of a storage. -/
def storageText : Ladder.Storage → String
  | .direct => "none"
  | .set => "set"
  | .reset => "reset"

/-- The text of a flag. -/
def flagText (flag : Bool) : String := if flag then "true" else "false"

/-- The text of an integer. -/
def integerText : Int → String
  | .ofNat value => Nat.repr value
  | .negSucc value => "-" ++ Nat.repr (value + 1)

/-- The tree of a place. -/
def Place.tree (place : Place) : Tree :=
  .branch "position" [("x", integerText place.x), ("y", integerText place.y)] []

/-- The tree of the input side of an element. -/
def inputsTree (inputs : List Nat) : Tree :=
  .branch "connectionPointIn" []
    (inputs.map fun id => .branch "connection" [("refLocalId", Nat.repr id)] [])

/-- The tree of the output side of an element. -/
def outputTree (output : Option String) : Tree :=
  .branch "connectionPointOut" (output.toList.map fun name => ("formalParameter", name)) []

/-- The tree of a formatted text without content, under a tag. -/
def emptyTextTree (tag : String) : Tree :=
  .branch tag [] [.branch "xhtml" [("xmlns", textNamespace)] []]

/-- The tree of a diagram element. -/
def DiagramElement.tree (element : DiagramElement) : Tree :=
  let id := ("localId", Nat.repr element.id)
  let place := element.place.tree
  match element.symbol with
  | .leftRail output => .branch "leftPowerRail" [id] [place, outputTree output]
  | .rightRail inputs => .branch "rightPowerRail" [id] [place, inputsTree inputs]
  | .label text => .branch "label" [id, ("label", text)] [place]
  | .jump text inputs => .branch "jump" [id, ("label", text)] [place, inputsTree inputs]
  | .comment => .branch "comment" [id] [place, emptyTextTree "content"]
  | .vendor blocks =>
    .branch "vendorElement" [id]
      [place, emptyTextTree "alternativeText", blocksTree "addData" blocks]
  | .contact negated storage inputs output operand =>
    .branch "contact"
      [id, ("negated", flagText negated), ("storage", storageText storage), ("edge", "none")]
      [place, inputsTree inputs, outputTree output, .leaf "variable" [] operand]
  | .coil negated storage inputs output operand =>
    .branch "coil" [id, ("negated", flagText negated), ("storage", storageText storage)]
      [place, inputsTree inputs, outputTree output, .leaf "variable" [] operand]

/-- The tree of a ladder diagram under a tag. -/
def diagramTree (tag : String) (elements : List DiagramElement) : Tree :=
  .branch tag [] (elements.map DiagramElement.tree)

/-! ## Program units and the project -/

/-- The tree of a Boolean variable under a tag. -/
def variableTree (tag name : String) : Tree :=
  .branch tag [("name", name)] [.branch "type" [] [.branch "BOOL" [] []]]

/-- A program unit: its variables and its diagram. -/
structure ProgramUnit where
  name : String
  declared : List String
  elements : List DiagramElement
  deriving DecidableEq

/-- The tree of a program unit under a tag. -/
def ProgramUnit.tree (tag : String) (unit : ProgramUnit) : Tree :=
  .branch tag [("name", unit.name), ("pouType", "program")]
    [.branch "interface" []
      [.branch "localVars" [] (unit.declared.map (variableTree "variable"))],
      .branch "body" [] [diagramTree "LD" unit.elements]]

/-- Where a file comes from. -/
structure FileHeader where
  company : String
  product : String
  version : String
  created : String
  deriving DecidableEq

/-- The scale of a diagram language. -/
structure Scaling where
  x : Nat := 1
  y : Nat := 1
  deriving DecidableEq

/-- What a file holds: name, time of the last change, and the scales of function block diagrams,
ladder diagrams and function charts. -/
structure ContentHeader where
  name : String
  modified : String
  blockScaling : Scaling := {}
  ladderScaling : Scaling := {}
  chartScaling : Scaling := {}
  blocks : List Block
  deriving DecidableEq

/-- A project document. -/
structure Document where
  fileHeader : FileHeader
  contentHeader : ContentHeader
  units : List ProgramUnit
  blocks : List Block
  deriving DecidableEq

/-- The tree of a file header. -/
def FileHeader.tree (header : FileHeader) : Tree :=
  .branch "fileHeader"
    [("companyName", header.company), ("productName", header.product),
      ("productVersion", header.version), ("creationDateTime", header.created)] []

/-- The tree of a scale, under the tag of its language. -/
def Scaling.tree (tag : String) (scaling : Scaling) : Tree :=
  .branch tag []
    [.branch "scaling" [("x", Nat.repr scaling.x), ("y", Nat.repr scaling.y)] []]

/-- The tree of a content header. -/
def ContentHeader.tree (header : ContentHeader) : Tree :=
  .branch "contentHeader"
    [("name", header.name), ("modificationDateTime", header.modified)]
    [.branch "coordinateInfo" []
      [header.blockScaling.tree "fbd", header.ladderScaling.tree "ld",
        header.chartScaling.tree "sfc"],
      blocksTree "addData" header.blocks]

/-- The tree of a project document. -/
def Document.tree (document : Document) : Tree :=
  .branch "project" [("xmlns", formatNamespace)]
    [document.fileHeader.tree, document.contentHeader.tree,
      .branch "types" []
        [.branch "dataTypes" [] [],
          .branch "pous" [] (document.units.map (ProgramUnit.tree "pou"))],
      .branch "instances" [] [.branch "configurations" [] []],
      blocksTree "addData" document.blocks]

/-- The declaration that opens the text of a document. -/
def declaration : String := "<?xml version=\"1.0\" encoding=\"utf-8\"?>"

/-- The text of a document: the declaration, then the tree, indented by two. -/
def Document.text (document : Document) : String :=
  declaration ++ "\n" ++ document.tree.render (some 2) ++ "\n"

end SupervisoryLadder.Project
