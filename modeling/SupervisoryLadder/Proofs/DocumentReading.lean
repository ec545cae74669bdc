import SupervisoryLadder.Project.Export
import SupervisoryLadder.Proofs.DisablementMap
import SupervisoryLadder.Proofs.XmlReading

/-!
# Reading a project document

The contents of a project document are the strings of its headers, the name of its program unit, the
variables and the elements of the program. They are read by following the tags and attributes of the
exchange format through the element that the text holds. Every document that is written for a
program is read back as that program, so different programs, names or dates never have the same
text.
-/

namespace SupervisoryLadder

namespace Xml.Node

/-- The value of an attribute. -/
def attribute? (node : Node) (name : String) : Option String := node.attributes.lookup name

/-- The first child with the tag. -/
def child? (node : Node) (tag : String) : Option Node :=
  node.children.find? fun child => child.tag == tag

/-- The element at the end of a path of tags. -/
def descendant? (node : Node) (path : List String) : Option Node := path.foldlM child? node

end Xml.Node

namespace Project

open Xml Ladder

/-! ## Values -/

/-- The number that digits stand for. -/
def numberOf? (text : String) : Option Nat :=
  if text.toList.all Char.isDigit then some (Nat.ofDigitChars 10 text.toList 0) else none

/-- The flag with the text. -/
def flagOf? (text : String) : Option Bool := [true, false].find? fun flag => flagText flag == text

/-- The storage with the text. -/
def storageOf? (text : String) : Option Storage :=
  [Storage.direct, .set, .reset].find? fun storage => storageText storage == text

/-- The section with the label. -/
def sectionOf? (text : String) : Option Section :=
  Section.all.find? fun place => place.label == text

theorem numberOf?_repr (number : Nat) : numberOf? (Nat.repr number) = some number := by
  have digits : (Nat.toDigits 10 number).all Char.isDigit = true :=
    List.all_eq_true.mpr fun _ member =>
      Nat.isDigit_of_mem_toDigits (by decide) (by decide) member
  rw [numberOf?, Nat.toList_repr, if_pos digits, Nat.ofDigitChars_ten_toDigits]

theorem flagOf?_text (flag : Bool) : flagOf? (flagText flag) = some flag := by
  cases flag <;> decide

theorem storageOf?_text (storage : Storage) : storageOf? (storageText storage) = some storage := by
  cases storage <;> decide

theorem sectionOf?_label (place : Section) : sectionOf? place.label = some place := by
  cases place <;> decide

/-- A list is read back item by item. -/
theorem mapM_map_of_inverse {α β : Type} (write : α → β) (read : β → Option α)
    (inverse : ∀ item, read (write item) = some item) (items : List α) :
    (items.map write).mapM read = some items := by
  induction items with
  | nil => rfl
  | cons item rest inductionHypothesis =>
    rw [List.map_cons, List.mapM_cons, inverse, inductionHypothesis]
    rfl

/-! ## Elements -/

/-- The ids of the elements that feed an element. -/
def inputsOf? (node : Node) : Option (List Nat) := do
  let side ← node.child? "connectionPointIn"
  side.children.mapM fun connection => (connection.attribute? "refLocalId").bind numberOf?

/-- The variable of a contact or a coil. -/
def operandOf? (node : Node) : Option String := (node.child? "variable").map Node.text

/-- What an element is, by its tag. Titles are the only elements of the vendor; contacts have the
storage of a plain read, and coils are never negated. -/
def partOf? (node : Node) : Option (Ladder.Part Nat) :=
  match node.tag with
  | "leftPowerRail" => some .leftRail
  | "rightPowerRail" => some .rightRail
  | "label" => ((node.attribute? "label").bind sectionOf?).map .label
  | "jump" => do
    let target ← (node.attribute? "label").bind sectionOf?
    return .jump target (← inputsOf? node)
  | "comment" => some .comment
  | "vendorElement" => do
    let kind ← node.descendant? ["addData", "data", "ElementType"]
    if kind.text = "networktitle" then some .networkTitle else none
  | "contact" => do
    let negated ← (node.attribute? "negated").bind flagOf?
    let storage ← (node.attribute? "storage").bind storageOf?
    if storage = .direct then return .contact (← operandOf? node) negated (← inputsOf? node)
    else none
  | "coil" => do
    let negated ← (node.attribute? "negated").bind flagOf?
    let storage ← (node.attribute? "storage").bind storageOf?
    if negated then none
    else return .coil (← operandOf? node) storage (← inputsOf? node)
  | _ => none

/-- An element of a program. -/
def elementOf? (node : Node) : Option Element := do
  let id ← (node.attribute? "localId").bind numberOf?
  return ⟨id, ← partOf? node⟩

/-- The input side of every element that has one stands behind its place. -/
theorem inputsOf?_node (tag : String) (attributes : List (String × String)) (place : Place)
    (inputs : List Nat) (rest : List Xml.Tree) :
    inputsOf? (Xml.Tree.branch tag attributes (place.tree :: inputsTree inputs :: rest)).node =
      some inputs := by
  have connections := mapM_map_of_inverse
    (fun id => (Xml.Tree.branch "connection" [("refLocalId", Nat.repr id)] []).node)
    (fun connection => (connection.attribute? "refLocalId").bind numberOf?)
    (fun id => by simp [Xml.Tree.node, Node.attribute?, numberOf?_repr]) inputs
  simpa [inputsOf?, Xml.Tree.node, childNodes, Node.child?, Place.tree, inputsTree,
    childNodes_eq_map, Function.comp_def] using connections

/-- The variable stands behind the place and the two sides. -/
theorem operandOf?_node (tag : String) (attributes : List (String × String)) (place : Place)
    (inputs : List Nat) (output : Option String) (operand : String) :
    operandOf? (Xml.Tree.branch tag attributes
      [place.tree, inputsTree inputs, outputTree output, .leaf "variable" [] operand]).node =
        some operand := by
  simp [operandOf?, Xml.Tree.node, childNodes, Node.child?, Place.tree, inputsTree, outputTree]

/-- Every element is read back from its tree. -/
theorem elementOf?_tree (element : Element) :
    elementOf? (diagramElement element).tree.node = some element := by
  obtain ⟨id, part⟩ := element
  have located (tag : String) (attributes : List (String × String)) (children : List Xml.Tree)
      (same : partOf? (Xml.Tree.branch tag (("localId", Nat.repr id) :: attributes) children).node =
        some part) :
      elementOf? (Xml.Tree.branch tag (("localId", Nat.repr id) :: attributes) children).node =
        some ⟨id, part⟩ := by
    rw [elementOf?, same]
    simp [Xml.Tree.node, Node.attribute?, numberOf?_repr]
  cases part with
  | leftRail => exact located _ _ _ rfl
  | rightRail => exact located _ _ _ rfl
  | label place =>
    refine located _ _ _ ?_
    simp [partOf?, Xml.Tree.node, Node.attribute?, List.lookup_cons, sectionOf?_label]
  | jump target inputs =>
    refine located _ _ _ ?_
    rw [partOf?, inputsOf?_node]
    simp [Xml.Tree.node, Node.attribute?, List.lookup_cons, sectionOf?_label]
  | comment => exact located _ _ _ rfl
  | networkTitle => exact located _ _ _ rfl
  | contact operand negated inputs =>
    refine located _ _ _ ?_
    rw [partOf?, inputsOf?_node, operandOf?_node]
    simp [Xml.Tree.node, Node.attribute?, List.lookup_cons, flagOf?_text, storageOf?_text]
  | coil operand storage inputs =>
    refine located _ _ _ ?_
    rw [partOf?, inputsOf?_node, operandOf?_node]
    simp [Xml.Tree.node, Node.attribute?, List.lookup_cons, flagOf?_text, storageOf?_text]

/-! ## Documents -/

/-- What a project document says about a program and its origin. The name of the program unit and
the date stand in it twice. -/
structure Contents where
  company : String
  product : String
  version : String
  created : String
  projectName : String
  modified : String
  unitName : String
  objectName : String
  declared : List String
  elements : List Element
  deriving DecidableEq

namespace Contents

/-- The contents of a project element. -/
def ofNode? (project : Node) : Option Contents := do
  let file ← project.child? "fileHeader"
  let content ← project.child? "contentHeader"
  let unit ← project.descendant? ["types", "pous", "pou"]
  let declarations ← unit.descendant? ["interface", "localVars"]
  let diagram ← unit.descendant? ["body", "LD"]
  let object ← project.descendant? ["addData", "data", "ProjectStructure", "Object"]
  return {
    company := ← file.attribute? "companyName"
    product := ← file.attribute? "productName"
    version := ← file.attribute? "productVersion"
    created := ← file.attribute? "creationDateTime"
    projectName := ← content.attribute? "name"
    modified := ← content.attribute? "modificationDateTime"
    unitName := ← unit.attribute? "name"
    objectName := ← object.attribute? "Name"
    declared := ← declarations.children.mapM (Node.attribute? · "name")
    elements := ← diagram.children.mapM elementOf? }

/-- The contents of a text. -/
def ofText? (text : String) : Option Contents := (parse text).bind ofNode?

/-- The contents of the document that is written for a program. -/
def ofProgram (program : Program) (options : Options) (date : String) : Contents where
  company := options.company
  product := options.product
  version := options.version
  created := date
  projectName := options.projectName
  modified := date
  unitName := options.unitName
  objectName := options.unitName
  declared := program.operands.names
  elements := program.elements

end Contents

/-- The variables are read back from their declarations. -/
theorem declared_read (names : List String) :
    (childNodes (names.map (variableTree "variable"))).mapM (Node.attribute? · "name") =
      some names := by
  rw [childNodes_eq_map, List.map_map]
  exact mapM_map_of_inverse _ _
    (fun name => by simp [variableTree, Xml.Tree.node, Node.attribute?]) names

/-- The elements are read back from the diagram. -/
theorem elements_read (elements : List Element) :
    (childNodes (elements.map (DiagramElement.tree ∘ diagramElement))).mapM elementOf? =
      some elements := by
  rw [childNodes_eq_map, List.map_map]
  exact mapM_map_of_inverse _ _ elementOf?_tree elements

/-- The document of a program has the contents of that program. -/
theorem ofNode?_tree (program : Program) (options : Options) (date : String) :
    Contents.ofNode? (documentOf program options date).tree.node =
      some (Contents.ofProgram program options date) := by
  have declared := declared_read program.operands.names
  have elements := elements_read program.elements
  simp only [Node.attribute?] at declared
  simp [Contents.ofNode?, documentOf, Document.tree, FileHeader.tree, ContentHeader.tree,
    blocksTree, ProgramUnit.tree, Block.tree, Payload.tree, ProjectObject.tree, diagramTree,
    Xml.Tree.node, childNodes, Node.child?, Node.descendant?, Node.attribute?, List.lookup_cons,
    Contents.ofProgram, declared, elements]

/-! ## Names -/

theorem payloadTree_named (payload : Payload) : payload.tree.Named := by
  cases payload <;>
    simp [Payload.tree, ProjectObject.tree, Xml.Tree.named_branch_iff, Xml.Tree.named_leaf_iff,
      IsName]

theorem blocksTree_named (blocks : List Block) : (blocksTree "addData" blocks).Named := by
  simp [blocksTree, Block.tree, Xml.Tree.named_branch_iff, payloadTree_named, IsName]

theorem elementTree_named (element : DiagramElement) : element.tree.Named := by
  obtain ⟨id, place, symbol⟩ := element
  cases symbol <;>
    simp [DiagramElement.tree, Place.tree, inputsTree, outputTree, emptyTextTree,
      Xml.Tree.named_branch_iff, Xml.Tree.named_leaf_iff, blocksTree_named, IsName]

/-- All tags and attributes of the exchange format have proper names. -/
theorem documentTree_named (document : Document) : document.tree.Named := by
  simp [Document.tree, FileHeader.tree, ContentHeader.tree, Scaling.tree, ProgramUnit.tree,
    variableTree, diagramTree, Xml.Tree.named_branch_iff, blocksTree_named, elementTree_named,
    IsName]

/-- A document is read back from its text. -/
theorem ofText?_text (program : Program) (options : Options) (date : String) :
    Contents.ofText? (documentOf program options date).text =
      some (Contents.ofProgram program options date) := by
  have declared : declaration = "<?" ++ "xml version=\"1.0\" encoding=\"utf-8\"?" ++ ">" := by
    decide
  rw [Contents.ofText?, Document.text, declared, parse_render (documentTree_named _) (some 2) _ _ _
    (by decide) (by decide) (by decide), Option.bind_some, ofNode?_tree]

/-! ## Renderings -/

/-- A rendering is the document with the text of the timestamp as its date. -/
theorem render_eq_ok {program : Program} {options : Options} {now : Timestamp} {text : String} :
    render program options now = .ok text ↔
      ∃ date, (options.timestamp.getD now).text = .ok date ∧
        (documentOf program options date).text = text := by
  unfold render
  cases (options.timestamp.getD now).text with
  | error reason => simp [bind, Except.bind]
  | ok date => simp [bind, Except.bind, pure, Except.pure]

/-- A rendering loses nothing. The program, the strings of the options and the date are read back
from the text, the declared variables are the operands of the elements that are read, in ascending
order, and whatever else has the same text is the same program with the same strings and date. -/
theorem render_lossless (program : Program) (options : Options) (now : Timestamp) (text : String)
    (rendered : render program options now = .ok text) :
    ∃ date, (options.timestamp.getD now).text = .ok date ∧
      Contents.ofText? text = some {
        company := options.company
        product := options.product
        version := options.version
        created := date
        projectName := options.projectName
        modified := date
        unitName := options.unitName
        objectName := options.unitName
        declared := program.operands.names
        elements := program.elements } ∧
      (∀ contents, Contents.ofText? text = some contents →
        contents.declared.Pairwise (· < ·) ∧ ∀ name, name ∈ contents.declared ↔
          ∃ element ∈ contents.elements, element.operand? = some name) ∧
      ∀ other otherOptions otherNow, render other otherOptions otherNow = .ok text →
        other = program ∧ otherOptions.company = options.company ∧
          otherOptions.product = options.product ∧ otherOptions.version = options.version ∧
          otherOptions.projectName = options.projectName ∧
          otherOptions.unitName = options.unitName ∧
          (otherOptions.timestamp.getD otherNow).text = .ok date := by
  obtain ⟨date, dated, rfl⟩ := render_eq_ok.mp rendered
  have recovered := ofText?_text program options date
  refine ⟨date, dated, recovered, ?_, ?_⟩
  · intro contents same
    obtain rfl := Option.some.inj (recovered.symm.trans same)
    refine ⟨program.operands.ascending, fun name => ?_⟩
    show name ∈ (NameSet.ofList (program.elements.filterMap Element.operand?)).names ↔ _
    rw [NameSet.mem_ofList, List.mem_filterMap]
    rfl
  · intro other otherOptions otherNow same
    obtain ⟨otherDate, otherDated, sameText⟩ := render_eq_ok.mp same
    have read := ofText?_text other otherOptions otherDate
    rw [sameText, recovered] at read
    have parts := Option.some.inj read
    simp only [Contents.ofProgram, Contents.mk.injEq] at parts
    obtain ⟨company, product, version, created, project, -, unit, -, -, elements⟩ := parts
    refine ⟨?_, company.symm, product.symm, version.symm, project.symm, unit.symm, ?_⟩
    · cases other
      cases program
      exact congrArg Program.mk elements.symm
    · rw [otherDated, created]

/-- A program whose variables have markup, a line break and no text at all in their names. -/
def awkwardProgram : Program where
  elements := [⟨0, .leftRail⟩, ⟨1, .label .plants⟩, ⟨2, .contact "a<\"b\">&amp;" true [0]⟩,
    ⟨3, .contact "" false [2]⟩, ⟨4, .coil "\n " .reset [2, 3]⟩, ⟨rightRailId, .rightRail⟩]

/-- Half past twelve on the first of March 2024. -/
def firstOfMarch : Timestamp := ⟨2024, 3, 1, 12, 30, 0, 0, 0, 0, 0⟩

theorem awkward_names_read_back :
    render awkwardProgram {} firstOfMarch =
        .ok (documentOf awkwardProgram {} "2024-03-01T12:30:00Z").text ∧
      (Contents.ofText? (documentOf awkwardProgram {} "2024-03-01T12:30:00Z").text).map
        Contents.declared = some ["", "\n ", "a<\"b\">&amp;"] := by
  have rendered : render awkwardProgram {} firstOfMarch =
      .ok (documentOf awkwardProgram {} "2024-03-01T12:30:00Z").text := rfl
  have declared : awkwardProgram.operands.names = ["", "\n ", "a<\"b\">&amp;"] := by decide
  obtain ⟨date, -, contents, -⟩ := render_lossless _ _ _ _ rendered
  rw [contents]
  exact ⟨rendered, congrArg some declared⟩

end Project

end SupervisoryLadder
