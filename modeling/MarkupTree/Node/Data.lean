import MarkupTree.Failure
import MarkupTree.Json.Printer
import MarkupTree.Node.Basic

/-!
# Document trees as values and as JSON texts

A node is shown as an object. Which fields it has depends on the name of the node; a node that was
given a name that does not fit its kind may lack the data that the fields ask for. The JSON text of
a tree is that of its object.

Results:

* `toValue_text`, `toValue_comment`: the objects of nodes without children.
* `toJson_of_check`: with a width that can be written, the text is that of the data of the tree.
-/

namespace MarkupTree.Node

/-- The fields of a node without children that its name asks for, or `none` if its name does not
tell that it is one. -/
def leafFields (label : Label) : Option (Except Failure (List (String × Value))) :=
  if label.name.isText "#text" then
    some (match label.kind with
      | .text value => .ok [("value", value)]
      | _ => .error .noSuchMember)
  else if label.name.isText "#comment" then
    some (match label.kind with
      | .comment data => .ok [("data", data)]
      | _ => .error .noSuchMember)
  else if label.name.isText "#documentType" then
    some (match label.kind with
      | .doctype name publicId systemId =>
        .ok [("name", name), ("publicId", publicId), ("systemId", systemId)]
      | _ => .error .noSuchMember)
  else none

/-- The fields before the children of a node. -/
def ownFields (label : Label) : Except Failure (List (String × Value)) :=
  if label.name.isText "#document" then
    match label.kind with
    | .document mode => .ok [("mode", mode)]
    | _ => .error .noSuchMember
  else if label.name.isText "#document-fragment" then .ok []
  else match label.kind with
    | .element _ none _ => .error .wrongType
    | .element tag (some attrs) namespaceURI =>
      .ok [("tagName", tag), ("attrs", .arr (attrs.map Attribute.toValue)),
        ("namespaceURI", namespaceURI)]
    | _ => .error .noSuchMember

/-- The field of a location, if there is one. -/
def locationFields (location : Option Location) : List (String × Value) :=
  match location with
  | none => []
  | some location => [("sourceCodeLocation", location.toValue)]

/-- The object of a node with the fields between its name and its location. -/
def withFields (label : Label) (fields : List (String × Value)) : Value :=
  .obj (("nodeName", label.name) :: fields ++ locationFields label.location)

mutual

/-- The object that shows a node and everything below it (`to_dict`). -/
def toValue : Node → Except Failure Value
  | mk label children content =>
    match leafFields label with
    | some fields => return withFields label (← fields)
    | none => do
      let own ← ownFields label
      if !label.kind.hasChildren then throw .noSuchMember
      let children ← toValues children
      let content ← contentFields content
      return withFields label (own ++ [("childNodes", .arr children)] ++ content)

/-- The objects of several nodes. -/
def toValues : List Node → Except Failure (List Value)
  | [] => return []
  | node :: rest => do
    let v ← toValue node
    let others ← toValues rest
    return v :: others

/-- The field of a content, if there is one. -/
def contentFields : Option Node → Except Failure (List (String × Value))
  | none => return []
  | some node => do
    let v ← toValue node
    return [("content", v)]

end

theorem toValue_text (value : Value) (location : Option Location) (children : List Node) :
    toValue (ofKind (.text value) location children) =
      .ok (.obj (("nodeName", .str "#text") :: ("value", value) :: locationFields location)) := by
  have h : leafFields (.ofKind (.text value) location) = some (.ok [("value", value)]) := by
    simp [leafFields, Label.ofKind, Kind.nodeName]
  rw [ofKind, toValue, h]
  rfl

theorem toValue_comment (data : Value) (location : Option Location) (children : List Node) :
    toValue (ofKind (.comment data) location children) =
      .ok (.obj (("nodeName", .str "#comment") :: ("data", data) :: locationFields location)) := by
  have h : leafFields (.ofKind (.comment data) location) = some (.ok [("data", data)]) := by
    simp [leafFields, Label.ofKind, Kind.nodeName, Value.isText]
  rw [ofKind, toValue, h]
  rfl

/-! ## JSON texts -/

/-- The JSON text of a tree, on one line or with a width of indentation (`to_json`). -/
def toJson (node : Node) (indent : Option Int) : Except Failure String := do
  let data ← node.toValue
  if let some width := indent then Width.check width
  return Json.render data indent

theorem toJson_of_check {node : Node} {indent : Option Int}
    (h : ∀ width ∈ indent, Width.check width = .ok ()) :
    node.toJson indent = node.toValue.map fun data => Json.render data indent := by
  cases hv : node.toValue with
  | error e => simp [toJson, hv, bind, Except.bind, Except.map]
  | ok data =>
    cases indent with
    | none => simp [toJson, hv, bind, Except.bind, Except.map, pure, Except.pure]
    | some width =>
      simp [toJson, hv, h width rfl, bind, Except.bind, Except.map, pure, Except.pure]

end MarkupTree.Node
