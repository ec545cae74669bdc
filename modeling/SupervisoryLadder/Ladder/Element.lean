import SupervisoryLadder.NameSet

/-!
# Elements of a ladder diagram

A program is a flat list of elements between two power rails. Every element has an id, and an
element that takes power lists the ids of the elements that feed it; several of them are an
alternative.
-/

namespace SupervisoryLadder

/-- The labelled parts of a program, in scan order. -/
inductive Section where
  | supervisors
  | disablement
  | plants
  | procedures
  deriving DecidableEq

namespace Section

/-- All sections, in scan order. -/
def all : List Section := [supervisors, disablement, plants, procedures]

/-- The label that opens the section and that jumps aim at. -/
def label : Section → String
  | supervisors => "supervisors"
  | disablement => "disablement"
  | plants => "plants"
  | procedures => "procedures"

end Section

namespace Ladder

/-- How a coil writes its variable. -/
inductive Storage where
  /-- The variable takes the power of the rung in every scan. -/
  | direct
  /-- Power latches the variable to true. -/
  | set
  /-- Power latches the variable to false. -/
  | reset
  deriving DecidableEq

/-- What an element is. The parameter is how an element refers to those that feed it. -/
inductive Part (ρ : Type) where
  | leftRail
  | rightRail
  /-- Opens a section. -/
  | label (place : Section)
  /-- Continues the scan after the label of the section when it has power. -/
  | jump (target : Section) (inputs : List ρ)
  /-- Empty text at the head of a rung. -/
  | comment
  /-- Title at the head of a rung. -/
  | networkTitle
  /-- Passes power on when its variable is true, or when it is false for a negated contact. -/
  | contact (operand : String) (negated : Bool) (inputs : List ρ)
  /-- Writes its variable. -/
  | coil (operand : String) (storage : Storage) (inputs : List ρ)
  deriving DecidableEq

namespace Part

variable {ρ σ : Type}

/-- Renames the references to feeding elements. -/
def map (rename : ρ → σ) : Part ρ → Part σ
  | leftRail => leftRail
  | rightRail => rightRail
  | label place => label place
  | jump target inputs => jump target (inputs.map rename)
  | comment => comment
  | networkTitle => networkTitle
  | contact operand negated inputs => contact operand negated (inputs.map rename)
  | coil operand storage inputs => coil operand storage (inputs.map rename)

/-- The elements that feed this one. -/
def inputs : Part ρ → List ρ
  | jump _ inputs | contact _ _ inputs | coil _ _ inputs => inputs
  | _ => []

/-- The variable that a contact reads or a coil writes. -/
def operand? : Part ρ → Option String
  | contact operand _ _ | coil operand _ _ => some operand
  | _ => none

end Part

/-- The id of the left power rail, which opens every program. -/
def leftRailId : Nat := 0

/-- The id of the right power rail, which closes every program. -/
def rightRailId : Nat := 2147483646

/-- An element of a program. -/
structure Element where
  id : Nat
  part : Part Nat
  deriving DecidableEq

namespace Element

/-- The ids of the elements that feed this one. -/
def inputs (element : Element) : List Nat := element.part.inputs

/-- The variable that the element reads or writes. -/
def operand? (element : Element) : Option String := element.part.operand?

end Element

/-- A ladder program: its elements in scan order. -/
structure Program where
  elements : List Element
  deriving DecidableEq

namespace Program

/-- The variables that some contact or coil uses. -/
def operands (program : Program) : NameSet :=
  NameSet.ofList (program.elements.filterMap Element.operand?)

/-- The first element with the id. -/
def element? (program : Program) (id : Nat) : Option Element :=
  program.elements.find? fun element => element.id == id

end Program

end Ladder

end SupervisoryLadder
