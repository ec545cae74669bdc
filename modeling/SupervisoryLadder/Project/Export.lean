import SupervisoryLadder.Log
import SupervisoryLadder.Project.Document
import SupervisoryLadder.Project.Timestamp

/-!
# The project document of a ladder program

A program becomes a project with one program unit. Its variables are declared in ascending order and
its elements are drawn in scan order at the origin; the importing environment lays them out.
-/

namespace SupervisoryLadder.Project

/-- What a project is called and where it says it comes from. Without a timestamp it is dated at the
time of the export. -/
structure Options where
  projectName : String := "ultrades.project"
  unitName : String := "DES_PRG"
  company : String := "LACSED"
  product : String := "UltraDES"
  version : String := "1.0"
  timestamp : Option Timestamp := none

/-- The identity of the program unit in the tree of project objects. -/
def unitObjectId : String := "41dd9df7-66e1-44a1-8afe-609cdf6d59c1"

/-- The symbol of an element. A title is a vendor element. -/
def symbolOf : Ladder.Part Nat → Symbol
  | .leftRail => .leftRail (some "none")
  | .rightRail => .rightRail []
  | .label place => .label place.label
  | .jump target inputs => .jump target.label inputs
  | .comment => .comment
  | .networkTitle =>
    .vendor [⟨elementTypeName, .implementation, .elementType "networktitle"⟩]
  | .contact operand negated inputs => .contact negated .direct inputs none operand
  | .coil operand storage inputs => .coil false storage inputs none operand

/-- The diagram element of an element, at the origin. -/
def diagramElement (element : Ladder.Element) : DiagramElement :=
  ⟨element.id, {}, symbolOf element.part⟩

/-- The document of a program, dated with the text of a timestamp. -/
def documentOf (program : Ladder.Program) (options : Options) (date : String) : Document where
  fileHeader := ⟨options.company, options.product, options.version, date⟩
  contentHeader := {
    name := options.projectName
    modified := date
    blocks := [⟨informationName, .implementation, .information⟩] }
  units := [⟨options.unitName, program.operands.names, program.elements.map diagramElement⟩]
  blocks := [⟨structureName, .discard, .objectTree [⟨options.unitName, unitObjectId⟩]⟩]

/-- The text of a program's document. `now` dates it when the options give no timestamp. -/
def render (program : Ladder.Program) (options : Options) (now : Timestamp) :
    Except TimestampError String := do
  let date ← (options.timestamp.getD now).text
  return (documentOf program options date).text

/-- The records of a rendering: a document that has a date is summed up. -/
def renderRecords (program : Ladder.Program) (options : Options) (now : Timestamp) : List Record :=
  match (options.timestamp.getD now).text with
  | .error _ => []
  | .ok _ =>
    [⟨.debug, "Project " ++ options.projectName ++ " declares " ++
      Nat.repr program.operands.names.length ++ " variables and " ++
      Nat.repr program.elements.length ++ " ladder elements"⟩]

end SupervisoryLadder.Project
