import SupervisoryLadder.Ladder.Element

/-!
# One scan of a ladder program

The controller evaluates the elements in order. The left rail has power, an element is fed when one
of the elements it lists has power, a contact reads its variable when it is reached, and a coil
writes at once. A jump with power passes over everything up to the label of its section.
-/

namespace SupervisoryLadder.Ladder

/-- The values of all variables. -/
abbrev Valuation := String → Bool

/-- The valuation in which one variable has a new value. -/
def Valuation.write (values : Valuation) (name : String) (value : Bool) : Valuation :=
  fun other => if other = name then value else values other

/-- The state of the controller within a scan. -/
structure Scan where
  values : Valuation
  /-- The elements that pass power on. -/
  power : Nat → Bool
  /-- The section whose label ends a jump that is under way. -/
  seeking : Option Section

namespace Scan

/-- The state at the start of a scan. -/
def start (values : Valuation) : Scan := ⟨values, fun _ => false, none⟩

/-- True when one of the elements has power. -/
def fed (scan : Scan) (inputs : List Nat) : Bool := inputs.any scan.power

/-- Gives an element its power. -/
def energize (scan : Scan) (id : Nat) (on : Bool) : Scan :=
  { scan with power := fun other => if other = id then on else scan.power other }

/-- Writes a variable. -/
def write (scan : Scan) (name : String) (value : Bool) : Scan :=
  { scan with values := scan.values.write name value }

/-- The effect of an element that the scan reaches. -/
def reach (scan : Scan) (element : Element) : Scan :=
  match element.part with
  | .leftRail => scan.energize element.id true
  | .contact operand negated inputs =>
    scan.energize element.id (scan.fed inputs && (scan.values operand != negated))
  | .coil operand .direct inputs => scan.write operand (scan.fed inputs)
  | .coil operand .set inputs => if scan.fed inputs then scan.write operand true else scan
  | .coil operand .reset inputs => if scan.fed inputs then scan.write operand false else scan
  | .jump target inputs => if scan.fed inputs then { scan with seeking := some target } else scan
  | .rightRail | .label _ | .comment | .networkTitle => scan

/-- The effect of the next element: during a jump only the label sought for ends the jump. -/
def step (scan : Scan) (element : Element) : Scan :=
  match scan.seeking with
  | none => scan.reach element
  | some target =>
    if element.part = .label target then { scan with seeking := none } else scan

/-- The state after a list of elements. -/
def run (scan : Scan) (elements : List Element) : Scan := elements.foldl step scan

end Scan

/-- The valuation after one scan of the program. -/
def Program.scan (program : Program) (values : Valuation) : Valuation :=
  ((Scan.start values).run program.elements).values

end SupervisoryLadder.Ladder
