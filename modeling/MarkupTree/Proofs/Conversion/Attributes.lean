import MarkupTree.Proofs.Attribute.Namespaces
import MarkupTree.Proofs.Conversion.Made

/-!
# Attributes of converted elements

Whatever the properties of the elements of a source tree are called, the attributes of the converted
elements are in the namespaces to which their names belong, and no two of an element are the same.

Results:

* `exists_ofProperties_of_step`: the attributes of an element are those of properties.
* `attributes_in_namespaces`: what this says of all elements of a converted tree.
-/

namespace MarkupTree.Conversion

open Command (Space)
open Source (Place)

variable {space : Space} {place : Place} {node : Node}

/-- The attributes that a step gives to an element are those of some properties in its space. -/
theorem exists_ofProperties_of_step (h : Step space.schema place node) {tag uri : Value}
    {attrs : Option (List Attribute)} (hk : node.label.kind = .element tag attrs uri) :
    ∃ list, attrs = some list ∧
      ∃ properties, Attribute.ofProperties space.schema properties = .ok list := by
  obtain ⟨⟨list, hlist, ha⟩, -⟩ := h.element tag attrs uri hk
  exact ⟨list, hlist, _, ha⟩

/-- Every attribute of every element of a converted tree is in the namespace to which its name
belongs: it has a qualifier if and only if it has a namespace; in a namespace, it is either
qualified by the name of this namespace and stands in its table, or is the declaration of the
default namespace; and without one, it has the name of no attribute of a foreign namespace, in any
letter case. No two attributes of an element have the same name in the same namespace. So the value
that is found for a name is that of the attribute with this name and without a namespace. -/
theorem attributes_in_namespaces {tree start : Value} {asFragment : Bool} {root element : Node}
    (h : documentTree tree start asFragment = .ok root) (he : element ∈ root.preorder)
    {tag uri : Value} {attrs : Option (List Attribute)}
    (hk : element.label.kind = .element tag attrs uri) :
    ∃ list, attrs = some list ∧ (∀ a ∈ list, a.IsPlaced) ∧
      (list.map Attribute.expandedName).Nodup ∧
      ∀ name v, Attribute.valueOf? list (.str name) = some v ↔
        ∃ a ∈ list, a.name = .str name ∧ a.value = v ∧ a.namespaceURI = .null := by
  obtain ⟨space, hspace⟩ := exists_space_of_documentTree h
  obtain ⟨space', place, -, hstep⟩ := exists_step_of_mem_preorder hspace he
  obtain ⟨list, rfl, properties, ha⟩ := exists_ofProperties_of_step hstep hk
  have hplaced : ∀ a ∈ list, a.IsPlaced := fun _ hmem => Attribute.isPlaced_of_mem ha hmem
  have hnodup := Attribute.nodup_expandedNames ha
  refine ⟨list, rfl, hplaced, hnodup, ?_⟩
  exact Attribute.valueOf?_eq_some_iff hnodup fun a hmem => (hplaced a hmem).exists_name

/-- A source element with properties and nothing else. -/
def sourceElement (tag : String) (properties : List (String × Value)) : Value :=
  .obj [("type", .str "element"), ("tagName", .str tag), ("properties", .obj properties)]

theorem documentTree_sourceElement (space : Space) {tag : String} (htag : tag ≠ "template")
    (properties : List (String × Value)) :
    documentTree (sourceElement tag properties) (.str space.name) false =
      .ok (.element (.str tag)
        (Attribute.ofLastWrites (space.inside (.str tag)).info properties)
        (.str (space.inside (.str tag)).uri) none [] none) := by
  have hcontent : ∀ schema content, contentOf schema (.str tag) content = .ok none :=
    fun _ _ => if_neg fun h => htag (Value.str.inj (Value.isText_iff.mp h))
  rw [documentTree_eq _ space.ofSpace?_name]
  show convert space.schema (sourceElement tag properties) = _
  rw [sourceElement, convert_element rfl rfl, schemaFor_schema, elementNamespace_schema]
  show (Attribute.ofProperties (space.inside (.str tag)).schema (.obj properties)).bind _ = _
  rw [Attribute.ofProperties_obj]
  simp only [hcontent]
  rfl

/-- Two properties with the names of data attributes, which are not in order. -/
def labels : List (String × Value) := [("data-b", .str "1"), ("data-a", .str "2")]

/-- Properties of a link, two of which go by one name in different letter case. -/
def linkProperties : List (String × Value) :=
  [("XLINK:HREF", .str "#b"), ("xLinkHref", .str "#c"), ("xmlns", .str "d"), ("href", .str "#e")]

theorem attributes_in_namespaces_link :
    ∃ root, documentTree (sourceElement "a" linkProperties) (.str Space.svg.name) false = .ok root ∧
      root ∈ root.preorder ∧
      ∃ attrs, root.label.kind = .element (.str "a") attrs (.str Namespace.svg) ∧
        ∃ list, attrs = some list ∧ (∀ a ∈ list, a.IsPlaced) ∧
          (list.map Attribute.expandedName).Nodup ∧
          ∀ name v, Attribute.valueOf? list (.str name) = some v ↔
            ∃ a ∈ list, a.name = .str name ∧ a.value = v ∧ a.namespaceURI = .null := by
  have h := documentTree_sourceElement .svg (by decide : "a" ≠ "template") linkProperties
  exact ⟨_, h, Node.mem_preorder_self _, _, rfl,
    attributes_in_namespaces h (Node.mem_preorder_self _) rfl⟩

end MarkupTree.Conversion
