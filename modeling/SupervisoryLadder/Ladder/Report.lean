import SupervisoryLadder.Ladder.Generation
import SupervisoryLadder.Text.Quoted

/-!
# What the generation of a program reports

Every element between the rails is traced, each of the first three sections is counted without its
label, and the finished program is summed up.
-/

namespace SupervisoryLadder

/-- The name of a section in a traced element. -/
def Section.title : Section → String
  | .supervisors => "Supervisors"
  | .disablement => "Disablement"
  | .plants => "Plants"
  | .procedures => "Procedures"

namespace Ladder

/-- The name of a storage in a traced element. -/
def Storage.title : Storage → String
  | .direct => "None"
  | .set => "Set"
  | .reset => "Reset"

/-- An id in a traced element. -/
def describeId (id : Nat) : String := "LocalId(" ++ Nat.repr id ++ ")"

/-- Ids in a traced element. -/
def describeIds (ids : List Nat) : String :=
  "[" ++ String.intercalate ", " (ids.map describeId) ++ "]"

/-- A traced value: its kind and its named fields. -/
def describeFields (kind : String) (fields : List (String × String)) : String :=
  kind ++ " \x7b " ++
    String.intercalate ", " (fields.map fun field => field.1 ++ ": " ++ field.2) ++ " \x7d"

/-- An element as a trace shows it. -/
def Element.describe (element : Element) : String :=
  let id := ("id", describeId element.id)
  match element.part with
  | .leftRail => describeFields "LeftRail" [id]
  | .rightRail => describeFields "RightRail" [id]
  | .label place => describeFields "Label" [id, ("section", place.title)]
  | .jump target inputs =>
    describeFields "Jump" [id, ("section", target.title), ("inputs", describeIds inputs)]
  | .comment => describeFields "Comment" [id]
  | .networkTitle => describeFields "NetworkTitle" [id]
  | .contact operand negated inputs =>
    describeFields "Contact"
      [id, ("variable", Text.quote operand), ("negated", if negated then "true" else "false"),
        ("inputs", describeIds inputs)]
  | .coil operand storage inputs =>
    describeFields "Coil"
      [id, ("variable", Text.quote operand), ("storage", storage.title),
        ("inputs", describeIds inputs)]

/-- The records of one section: its elements, and their number without the label. -/
def sectionRecords (place : Section) (elements : List Element) : List Record :=
  elements.map (fun element => ⟨.trace, "Emit " ++ element.describe⟩) ++
    if place = .procedures then []
    else [⟨.debug, "Section " ++ place.label ++ " has " ++ Nat.repr (elements.length - 1) ++
      " elements"⟩]

/-- The records of a generation, in order. -/
def generationRecords (system : ControlSystem) : List Record :=
  let program := generate system
  Disablement.record system.supervisors ::
    (sections system).flatMap (fun entry => sectionRecords entry.1 entry.2) ++
    [⟨.debug, "Generated " ++ Nat.repr program.elements.length ++ " ladder elements and " ++
      Nat.repr program.operands.names.length ++ " variables"⟩]

end Ladder

end SupervisoryLadder
