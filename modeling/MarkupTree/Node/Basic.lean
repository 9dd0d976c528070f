import MarkupTree.Attribute.Basic
import MarkupTree.Location

/-!
# Document trees

A node has a kind, which says what data it holds and whether it can have children, a name under
which it is shown, and perhaps a location. A template has its own children and, apart from them, a
content.

Results:

* `induction`: a property of nodes follows from the properties of their children and contents.
* `length_preorder`: the document order has as many nodes as the tree.
-/

namespace MarkupTree

/-- What a node holds besides its children. -/
inductive Node.Kind where
  /-- A node of no particular kind, without children. -/
  | plain
  /-- A node of no particular kind, with children. -/
  | parent
  | document (mode : Value)
  | fragment
  /-- An element; its list of attributes may be missing. -/
  | element (tag : Value) (attrs : Option (List Attribute)) (namespaceURI : Value)
  | text (value : Value)
  | comment (data : Value)
  | doctype (name publicId systemId : Value)

namespace Node.Kind

/-- The name of the kind. -/
def className : Kind → String
  | plain => "Node"
  | parent => "ParentNode"
  | document _ => "Document"
  | fragment => "DocumentFragment"
  | element .. => "Element"
  | text _ => "TextNode"
  | comment _ => "CommentNode"
  | doctype .. => "DocumentType"

/-- Whether nodes of this kind have a list of children. -/
def hasChildren : Kind → Bool
  | parent => true
  | document _ => true
  | fragment => true
  | element .. => true
  | _ => false

/-- Whether nodes of this kind have a place for a content. -/
def hasContent : Kind → Bool
  | element .. => true
  | _ => false

/-- The name under which a new node of this kind is shown; other names may be given later. -/
def nodeName : Kind → Value
  | document _ => .str "#document"
  | fragment => .str "#document-fragment"
  | element tag .. => tag
  | text _ => .str "#text"
  | comment _ => .str "#comment"
  | doctype .. => .str "#documentType"
  | plain => .null
  | parent => .null

end Node.Kind

/-- A node apart from the nodes it is linked to. -/
structure Node.Label where
  kind : Node.Kind
  name : Value
  location : Option Location

/-- The label of a node that has just been made. -/
def Node.Label.ofKind (kind : Node.Kind) (location : Option Location) : Node.Label :=
  ⟨kind, kind.nodeName, location⟩

/-- The text that shows a node in short. -/
def Node.Label.literal (label : Node.Label) : String :=
  "<" ++ label.kind.className ++ " " ++ label.name.display ++ ">"

/-- A node with everything below it. -/
inductive Node where
  | mk (label : Node.Label) (children : List Node) (content : Option Node)

namespace Node

/-- The node apart from the nodes below it. -/
def label : Node → Label
  | mk label _ _ => label

/-- The children in order. -/
def children : Node → List Node
  | mk _ children _ => children

/-- The content of a template. -/
def content : Node → Option Node
  | mk _ _ content => content

@[simp] theorem label_mk (l : Label) (cs : List Node) (c : Option Node) : (mk l cs c).label = l :=
  rfl

@[simp] theorem children_mk (l : Label) (cs : List Node) (c : Option Node) :
    (mk l cs c).children = cs := rfl

@[simp] theorem content_mk (l : Label) (cs : List Node) (c : Option Node) :
    (mk l cs c).content = c := rfl

/-! ## Making nodes -/

/-- A node of a kind that is made with its own name and has no content. -/
def ofKind (kind : Kind) (location : Option Location) (children : List Node) : Node :=
  mk (.ofKind kind location) children none

/-- An element, which is a template if it has a content. -/
def element (tag : Value) (attrs : List Attribute) (namespaceURI : Value)
    (location : Option Location) (children : List Node) (content : Option Node) : Node :=
  mk (.ofKind (.element tag (some attrs) namespaceURI) location) children content

/-- The doctype of every converted tree. -/
def htmlDoctype (location : Option Location) : Node :=
  ofKind (.doctype (.str "html") (.str "") (.str "")) location []

/-! ## Induction and size -/

/-- A property of all nodes, proved for a node from its children and its content. -/
theorem induction {motive : Node → Prop}
    (mk : ∀ label children content, (∀ c ∈ children, motive c) → (∀ c ∈ content, motive c) →
      motive (mk label children content)) (node : Node) : motive node :=
  Node.rec (motive_1 := motive) (motive_2 := fun cs => ∀ c ∈ cs, motive c)
    (motive_3 := fun o => ∀ c ∈ o, motive c)
    (fun label children content hs ho => mk label children content hs ho)
    (fun _ h => absurd h List.not_mem_nil)
    (fun _ _ hc hs _ h => (List.mem_cons.mp h).elim (fun e => e ▸ hc) (hs _))
    (fun _ h => absurd h (by simp))
    (fun _ hc _ h => by
      obtain rfl := Option.some.inj h
      exact hc)
    node

mutual

/-- The number of nodes of a tree. -/
def size : Node → Nat
  | mk _ children content => 1 + sizeAll children + sizeOpt content

/-- The number of nodes of several trees. -/
def sizeAll : List Node → Nat
  | [] => 0
  | node :: rest => size node + sizeAll rest

/-- The number of nodes of a content. -/
def sizeOpt : Option Node → Nat
  | none => 0
  | some node => size node

end

theorem size_pos (node : Node) : 0 < node.size := by
  cases node
  rw [size]
  omega

/-! ## Document order -/

mutual

/-- The nodes of a tree in document order (`iter_nodes`): a node, its children, its content. -/
def preorder : Node → List Node
  | mk label children content =>
    mk label children content :: (preorderAll children ++ preorderOpt content)

/-- The nodes of several trees one after another. -/
def preorderAll : List Node → List Node
  | [] => []
  | node :: rest => preorder node ++ preorderAll rest

/-- The nodes of a content. -/
def preorderOpt : Option Node → List Node
  | none => []
  | some node => preorder node

end

@[simp] theorem preorderAll_eq_flatMap (nodes : List Node) :
    preorderAll nodes = nodes.flatMap preorder := by
  induction nodes with
  | nil => rfl
  | cons node rest ih => simp [preorderAll, ih]

mutual

theorem length_preorder : ∀ node : Node, node.preorder.length = node.size
  | mk label children content => by
    rw [preorder, size, List.length_cons, List.length_append, length_preorderAll children,
      length_preorderOpt content]
    omega

theorem length_preorderAll : ∀ nodes : List Node, (preorderAll nodes).length = sizeAll nodes
  | [] => rfl
  | node :: rest => by
    rw [preorderAll, sizeAll, List.length_append, length_preorder node, length_preorderAll rest]

theorem length_preorderOpt : ∀ node : Option Node, (preorderOpt node).length = sizeOpt node
  | none => rfl
  | some node => by
    rw [preorderOpt, sizeOpt, length_preorder node]

end

end Node

end MarkupTree
