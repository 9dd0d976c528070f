import MarkupTree.Failure
import MarkupTree.Fields
import MarkupTree.Node.Basic

/-!
# Forests of linked nodes

A forest holds nodes that know their children, their content and their parent, and a table of ids
for some of them. Nodes are made from the name of their kind and a list of arguments of any type,
and a converted tree is planted into a forest cell by cell in document order.

Results:

* `Node.construct_element_null`: an element without a list of attributes has an empty one.
* `length_cellsOf`: a tree is planted in as many cells as it has nodes.
* `find_bind_self`: an id finds the node that it was bound to last.
-/

namespace MarkupTree

/-! ## Nodes by hand -/

namespace Node

/-- The list of attributes that a value shows; null shows that it is missing. -/
def attributesOfValue : Value → Option (List Attribute)
  | .arr items => some (items.map Attribute.ofValue)
  | _ => none

/-- The kind with this name and these arguments, with the name that the node is given. Arguments at
the end that have a usual value may be left out. -/
def construct (className : String) (arguments : List Value) : Except Failure Label :=
  match className, arguments with
  | "Node", [name] => .ok ⟨.plain, name, none⟩
  | "ParentNode", [name] => .ok ⟨.parent, name, none⟩
  | "Document", [] => .ok (.ofKind (.document (.str "no-quirks")) none)
  | "Document", [mode] => .ok (.ofKind (.document mode) none)
  | "DocumentFragment", [] => .ok (.ofKind .fragment none)
  | "Element", [tag, attrs, namespaceURI] =>
    .ok (.ofKind (.element tag (some ((attributesOfValue attrs).getD [])) namespaceURI) none)
  | "TextNode", [value] => .ok (.ofKind (.text value) none)
  | "CommentNode", [data] => .ok (.ofKind (.comment data) none)
  | "DocumentType", [] => .ok (.ofKind (.doctype (.str "html") (.str "") (.str "")) none)
  | "DocumentType", [name] => .ok (.ofKind (.doctype name (.str "") (.str "")) none)
  | "DocumentType", [name, publicId] => .ok (.ofKind (.doctype name publicId (.str "")) none)
  | "DocumentType", [name, publicId, systemId] =>
    .ok (.ofKind (.doctype name publicId systemId) none)
  | _, _ => .error .wrongType

theorem construct_element_null (tag namespaceURI : Value) :
    construct "Element" [tag, .null, namespaceURI] =
      .ok (.ofKind (.element tag (some []) namespaceURI) none) := rfl

end Node

/-! ## Cells -/

/-- A node of a forest with its links to other cells. -/
structure Forest.Cell where
  label : Node.Label
  children : List Nat
  content : Option Nat
  parent : Option Nat

/-- The cell of a node without links. -/
def Forest.Cell.single (label : Node.Label) : Forest.Cell := ⟨label, [], none, none⟩

/-- The cells to which a cell links downwards. -/
def Forest.Cell.below (cell : Forest.Cell) : List Nat := cell.children ++ cell.content.toList

/-- Linked nodes, and the ids under which some of them are known. -/
structure Forest where
  cells : Array Forest.Cell := #[]
  ids : List (String × Nat) := []

namespace Forest

/-- The forest without nodes. -/
def empty : Forest := {}

/-- The cell at a place; there are no links to places without a cell. -/
def cell (forest : Forest) (n : Nat) : Cell :=
  forest.cells.getD n (.single ⟨.plain, .null, none⟩)

/-- The place that an id is bound to. -/
def find (forest : Forest) (id : String) : Except Failure Nat :=
  match forest.ids.lookup id with
  | some n => .ok n
  | none => .error (.missingKey (.str id))

/-- Binds an id to a place. -/
def bind (forest : Forest) (id : String) (n : Nat) : Forest :=
  { forest with ids := Fields.set id n forest.ids }

/-- Changes the cell at a place. -/
def modify (forest : Forest) (n : Nat) (f : Cell → Cell) : Forest :=
  { forest with cells := forest.cells.modify n f }

/-- Adds a node without links under an id. -/
def create (forest : Forest) (id : String) (label : Node.Label) : Forest :=
  bind { forest with cells := forest.cells.push (.single label) } id forest.cells.size

/-! ## Planting trees -/

/-- The places of trees that are planted one after another from `start` on. -/
def places (start : Nat) : List Node → List Nat
  | [] => []
  | node :: rest => start :: places (start + node.size) rest

mutual

/-- The cells of a tree planted from `start` on. Children are linked to their parent, a content is
not. -/
def cellsOf (start : Nat) (parent : Option Nat) : Node → List Cell
  | .mk label children content =>
    { label := label
      children := places (start + 1) children
      content := content.map fun _ => start + 1 + Node.sizeAll children
      parent := parent } ::
    (cellsOfAll (start + 1) start children ++
      cellsOfOpt (start + 1 + Node.sizeAll children) content)

/-- The cells of the children of one parent. -/
def cellsOfAll (start parent : Nat) : List Node → List Cell
  | [] => []
  | node :: rest =>
    cellsOf start (some parent) node ++ cellsOfAll (start + node.size) parent rest

/-- The cells of a content. -/
def cellsOfOpt (start : Nat) : Option Node → List Cell
  | none => []
  | some node => cellsOf start none node

end

/-- Plants a tree under an id for its root. -/
def plant (forest : Forest) (id : String) (node : Node) : Forest :=
  let start := forest.cells.size
  bind { forest with cells := forest.cells ++ (cellsOf start none node).toArray } id start

/-! ## Laws -/

@[simp] theorem find_bind_self (forest : Forest) (id : String) (n : Nat) :
    (forest.bind id n).find id = .ok n := by
  simp [find, bind]

@[simp] theorem length_places (start : Nat) (nodes : List Node) :
    (places start nodes).length = nodes.length := by
  induction nodes generalizing start with
  | nil => rfl
  | cons node rest ih => simp [places, ih]

mutual

theorem length_cellsOf : ∀ (start : Nat) (parent : Option Nat) (node : Node),
    (cellsOf start parent node).length = node.size
  | start, parent, .mk label children content => by
    rw [cellsOf, Node.size, List.length_cons, List.length_append,
      length_cellsOfAll (start + 1) start children,
      length_cellsOfOpt (start + 1 + Node.sizeAll children) content]
    omega

theorem length_cellsOfAll : ∀ (start parent : Nat) (nodes : List Node),
    (cellsOfAll start parent nodes).length = Node.sizeAll nodes
  | _, _, [] => rfl
  | start, parent, node :: rest => by
    rw [cellsOfAll, Node.sizeAll, List.length_append, length_cellsOf start (some parent) node,
      length_cellsOfAll (start + node.size) parent rest]

theorem length_cellsOfOpt : ∀ (start : Nat) (node : Option Node),
    (cellsOfOpt start node).length = Node.sizeOpt node
  | _, none => rfl
  | start, some node => by
    rw [cellsOfOpt, Node.sizeOpt, length_cellsOf start none node]

end

end Forest

end MarkupTree
