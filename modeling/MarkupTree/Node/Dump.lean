import MarkupTree.Attribute.Basic
import MarkupTree.Node.Basic
import MarkupTree.Value.Order
import MarkupTree.Failure

/-!
# Line dumps of document trees

Every node, every attribute and every content has a line. A line starts with a bar and is indented
by two spaces for each level; the children of a content are two levels below their template.
Attributes are sorted by the names under which they are shown.

Results:

* `dumpLines_document`, `dumpLines_fragment`: a document and a fragment show their children only.
-/

namespace MarkupTree.Node

/-- The start of a line at an indentation, which is none if negative. -/
def margin (indent : Int) : String := "| " ++ String.ofList (List.replicate indent.toNat ' ')

/-! ## Attributes -/

/-- The attributes in the order of the names under which they are shown. -/
def sortAttributes (attrs : List Attribute) : Except Failure (List Attribute) :=
  Value.sortOn Attribute.displayName attrs

/-- The line of an attribute. -/
def attributeLine (indent : Int) (a : Attribute) : String :=
  margin indent ++ a.displayName.display ++ "=\"" ++ a.value.display ++ "\""

/-- The lines of a list of attributes, which may be missing (`_attrs_to_test_format`). -/
def attributeLines (indent : Int) (attrs : Option (List Attribute)) :
    Except Failure (List String) :=
  match attrs with
  | none => .ok []
  | some attrs => (sortAttributes attrs).map fun sorted => sorted.map (attributeLine indent)

/-! ## Nodes -/

/-- The name of an element with that of its namespace in front, if it is foreign
(`_qualified_name`). -/
def qualifiedName (tag namespaceURI : Value) : Except Failure String :=
  if namespaceURI.isContainer then .error .wrongType
  else if namespaceURI.isText Namespace.svg then .ok ("svg " ++ tag.display)
  else if namespaceURI.isText Namespace.mathML then .ok ("math " ++ tag.display)
  else .ok tag.display

/-- The line of a doctype, which is never indented (`_doctype_to_test_format`). -/
def doctypeLine (name publicId systemId : Value) : String :=
  "| <!DOCTYPE" ++ (if name.truthy then " " ++ name.display else " ") ++
    (if publicId.truthy || systemId.truthy then
      " \"" ++ publicId.display ++ "\" \"" ++ systemId.display ++ "\""
    else "") ++ ">"

/-- The line of a node without children, or `none` if its name does not tell that it is one. -/
def leafLine (indent : Int) (label : Label) : Option (Except Failure String) :=
  if label.name.isText "#comment" then
    some (match label.kind with
      | .comment data => .ok (margin indent ++ "<!-- " ++ data.display ++ " -->")
      | _ => .error .noSuchMember)
  else if label.name.isText "#documentType" then
    some (match label.kind with
      | .doctype name publicId systemId => .ok (doctypeLine name publicId systemId)
      | _ => .error .noSuchMember)
  else if label.name.isText "#text" then
    some (match label.kind with
      | .text value => .ok (margin indent ++ "\"" ++ value.display ++ "\"")
      | _ => .error .noSuchMember)
  else none

/-- The lines of an element itself: its name and its attributes. -/
def elementLines (indent : Int) (kind : Kind) : Except Failure (List String) :=
  match kind with
  | .element tag attrs namespaceURI => do
    let name ← qualifiedName tag namespaceURI
    let attributes ← attributeLines (indent + 2) attrs
    return (margin indent ++ "<" ++ name ++ ">") :: attributes
  | _ => .error .noSuchMember

mutual

/-- The lines of a node and everything below it (`_node_to_test_format`). -/
def lines (indent : Int) : Node → Except Failure (List String)
  | mk label children content =>
    match leafLine indent label with
    | some line => return [← line]
    | none => do
      let own ← elementLines indent label.kind
      let content ← contentLines indent content
      let children ← linesAll (indent + 2) children
      return own ++ content ++ children

/-- The lines of several nodes one after another. -/
def linesAll (indent : Int) : List Node → Except Failure (List String)
  | [] => return []
  | node :: rest => do
    let own ← lines indent node
    let others ← linesAll indent rest
    return own ++ others

/-- The lines of the content of an element: a marker and the children of the content. -/
def contentLines (indent : Int) : Option Node → Except Failure (List String)
  | none => return []
  | some (mk label children _) => do
    if !label.kind.hasChildren then throw .noSuchMember
    let below ← linesAll (indent + 4) children
    return (margin (indent + 2) ++ "content") :: below

end

/-- The lines of a tree: those of the children for a document or a fragment, and those of the node
itself otherwise. Only these are indented, unless it is a doctype. -/
def dumpLines (indent : Int) (node : Node) : Except Failure (List String) :=
  let name := node.label.name
  if name.isContainer then .error .wrongType
  else if name.isText "#document" || name.isText "#document-fragment" then
    if node.label.kind.hasChildren then linesAll 0 node.children else .error .noSuchMember
  else do
    if !name.isText "#documentType" then Width.check indent
    lines indent node

/-- The line dump of a tree (`to_test_format`). -/
def dump (node : Node) (indent : Int) : Except Failure String :=
  (dumpLines indent node).map "\n".intercalate

theorem dumpLines_fragment (indent : Int) (location : Option Location) (children : List Node) :
    dumpLines indent (ofKind .fragment location children) = linesAll 0 children := by
  simp [dumpLines, ofKind, Label.ofKind, Kind.nodeName, Value.isContainer, Value.isText,
    Kind.hasChildren]

theorem dumpLines_document (indent : Int) (mode : Value) (location : Option Location)
    (children : List Node) :
    dumpLines indent (ofKind (.document mode) location children) = linesAll 0 children := by
  simp [dumpLines, ofKind, Label.ofKind, Kind.nodeName, Value.isContainer, Value.isText,
    Kind.hasChildren]

end MarkupTree.Node
