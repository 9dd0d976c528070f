import MarkupTree.Attribute.Building
import MarkupTree.Node.Basic
import MarkupTree.Schema.Standard
import MarkupTree.Source

/-!
# From source trees to document trees

Every source node becomes one node. The schema says how the properties of elements are understood
and in which namespace the elements are; it changes to that of SVG below an `svg` element of an
HTML tree. The first failure, in the order in which the fields of a node are read, ends the
conversion.

Results:

* `childrenIn_eq`, `contentIn_eq`: the children and the content come from the fields of these names.
* `schemaFor_of_space_ne`: only the schema of HTML is ever left.
-/

namespace MarkupTree.Conversion

/-- The schema for an element and what is below it. -/
def schemaFor (schema : Schema) (tag : Value) : Schema :=
  if schema.space == "html" && tag.isText "svg" then .svg else schema

/-- The address of the namespace of elements under a schema. -/
def elementNamespace (schema : Schema) : Except Failure Value :=
  match Namespace.uri? schema.space with
  | some uri => .ok (.str uri)
  | none => .error (.missingKey (.str schema.space))

mutual

/-- The node that a value describes (`_one`, with `_root`, `_element`, `_doctype`, `_text` and
`_comment`). -/
def convert (schema : Schema) : Value → Except Failure Node
  | .obj fields =>
    match Source.kind? fields with
    | none => .error (.unsupportedKind (Source.field fields "type"))
    | some .root => do
      let mode ← Source.mode fields
      let children ← childrenIn schema fields
      let location ← Source.location fields
      return .ofKind (.document mode) location children
    | some .element => do
      let some tag := fields.lookup "tagName" | throw (.missingKey (.str "tagName"))
      let schema := schemaFor schema tag
      let attrs ← Attribute.ofProperties schema (Source.field fields "properties")
      let namespaceURI ← elementNamespace schema
      let location ← Source.location fields
      let children ← childrenIn schema fields
      if tag.isText "template" then
        let content ← contentIn schema fields
        return .element tag attrs namespaceURI location children (some content)
      else return .element tag attrs namespaceURI location children none
    | some .text => do
      let location ← Source.location fields
      return .ofKind (.text (Source.payload fields)) location []
    | some .comment => do
      let location ← Source.location fields
      return .ofKind (.comment (Source.payload fields)) location []
    | some .doctype => do
      let location ← Source.location fields
      return .htmlDoctype location
  | _ => .error (.unsupportedKind .null)

/-- The nodes that a list of values describes (`_all`). -/
def convertAll (schema : Schema) : List Value → Except Failure (List Node)
  | [] => return []
  | v :: rest => do
    let node ← convert schema v
    let others ← convertAll schema rest
    return node :: others

/-- The nodes of a value that stands for a list of children. The items of a string or an object are
no source nodes. -/
def childList (schema : Schema) : Value → Except Failure (List Node)
  | .arr items => convertAll schema items
  | .str s => if s != "" then .error (.unsupportedKind .null) else return []
  | .obj fields => if !fields.isEmpty then .error (.unsupportedKind .null) else return []
  | v => if v.truthy then .error .wrongType else return []

/-- The children of a source node with these fields. -/
def childrenIn (schema : Schema) : List (String × Value) → Except Failure (List Node)
  | [] => return []
  | (key, v) :: rest => if key = "children" then childList schema v else childrenIn schema rest

/-- The fragment that an object describes, whatever its type (`_fragment`). An absent value
describes an empty one. -/
def fragment (schema : Schema) : Value → Except Failure Node
  | .obj fields => do
    let children ← childrenIn schema fields
    let location ← Source.location fields
    return .ofKind .fragment location children
  | v => if v.truthy then .error .noSuchMember else return .ofKind .fragment none []

/-- The content of a template with these fields. -/
def contentIn (schema : Schema) : List (String × Value) → Except Failure Node
  | [] => return .ofKind .fragment none []
  | (key, v) :: rest => if key = "content" then fragment schema v else contentIn schema rest

end

/-- Whether a value is a root. -/
def isRoot : Value → Bool
  | .obj fields => Source.kind? fields == some .root
  | _ => false

/-- The document tree of a source tree that starts in a space (`to_parse5`); a root becomes a
fragment if `asFragment` is set. -/
def documentTree (tree : Value) (space : Value) (asFragment : Bool) : Except Failure Node := do
  let schema ← Schema.ofSpace? space
  if asFragment && isRoot tree then fragment schema tree else convert schema tree

/-! ## Equations -/

theorem childrenIn_eq (schema : Schema) (fields : List (String × Value)) :
    childrenIn schema fields = childList schema (Source.field fields "children") := by
  induction fields with
  | nil => rfl
  | cons pair rest ih =>
    obtain ⟨key, v⟩ := pair
    by_cases h : key = "children"
    · subst h
      simp [childrenIn, Source.field]
    · rw [childrenIn, if_neg h, ih, Source.field, Source.field, List.lookup_cons,
        beq_eq_false_iff_ne.mpr (Ne.symm h)]

theorem contentIn_eq (schema : Schema) (fields : List (String × Value)) :
    contentIn schema fields = fragment schema (Source.field fields "content") := by
  induction fields with
  | nil => rfl
  | cons pair rest ih =>
    obtain ⟨key, v⟩ := pair
    by_cases h : key = "content"
    · subst h
      simp [contentIn, Source.field]
    · rw [contentIn, if_neg h, ih, Source.field, Source.field, List.lookup_cons,
        beq_eq_false_iff_ne.mpr (Ne.symm h)]

theorem schemaFor_of_space_ne {schema : Schema} (h : schema.space ≠ "html") (tag : Value) :
    schemaFor schema tag = schema := by
  simp [schemaFor, h]

end MarkupTree.Conversion
