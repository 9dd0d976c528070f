import MarkupTree.Forest.Edit
import MarkupTree.Proofs.Conversion.Made
import MarkupTree.Proofs.Forest.Planting

/-!
# Namespaces of converted elements

The namespace of an element, and the schema by which its properties are understood, depend on the
elements around it alone: inside an `svg` element both are those of SVG, and elsewhere they are
those with which the conversion started.

Results:

* `spaceAt_within`: one step of a conversion keeps to the space that the enclosing nodes give.
* `occurrencesIn_inSpace`: so does a whole conversion.
* `order_in_space_of_enclosing`: what this says of the elements that a walk through a forest
  reaches.
-/

namespace MarkupTree

/-- Whether a node is an element with the tag `svg`. -/
def Node.isSvg (node : Node) : Bool :=
  match node.label.kind with
  | .element tag _ _ => tag.isText "svg"
  | _ => false

/-- The space inside of nodes that enclose each other, if the outermost is in `start`. -/
def Command.Space.within (start : Command.Space) (enclosing : List Node) : Command.Space :=
  if enclosing.any Node.isSvg then .svg else start

namespace Conversion

open Command (Space)
open Source (field Place)

/-- Whether an occurrence of a node is what a place stands for, and is in the right space if it is
an element: that of SVG if it is an `svg` element or enclosed by one, and otherwise `start`. -/
structure InSpace (start : Space) (place : Place) (occurrence : Node.Occurrence) : Prop where
  kind : Describes place occurrence.node.label.kind
  element : ∀ tag attrs uri, occurrence.node.label.kind = .element tag attrs uri →
    uri = .str (start.within (occurrence.node :: occurrence.enclosing)).uri ∧
    ∃ list, attrs = some list ∧
      Attribute.ofProperties (start.within (occurrence.node :: occurrence.enclosing)).schema
        (field place.fields "properties") = .ok list

/-- The node of a place is an `svg` element if the source is one. -/
theorem isSvg_of_describes {place : Place} {node : Node} (h : Describes place node.label.kind) :
    node.isSvg = (place.kind? == some .element && (field place.fields "tagName").isText "svg") := by
  rw [Node.isSvg]
  generalize node.label.kind = kind at h
  cases kind with
  | element tag attrs uri =>
    rw [h.1, field, h.2, Option.getD_some, beq_self_eq_true, Bool.true_and]
  | fragment =>
    have hn : place.kind? = none := if_pos h
    rw [hn]
    rfl
  | plain => exact h.elim
  | parent => exact h.elim
  | _ =>
    rw [h.1]
    rfl

/-- What a place adds to the space around it is what its node adds. -/
theorem spaceAt_within {start : Space} {enclosing : List Node} {place : Place} {node : Node}
    (h : Describes place node.label.kind) :
    spaceAt (start.within enclosing) place = start.within (node :: enclosing) := by
  rw [spaceAt, Space.within, Space.within, List.any_cons, isSvg_of_describes h, Space.inside]
  by_cases hk : place.kind? = some .element
  · rw [if_pos hk, hk, beq_self_eq_true, Bool.true_and]
    cases (field place.fields "tagName").isText "svg" <;> rfl
  · rw [if_neg hk, beq_eq_false_iff_ne.mpr hk]
    rfl

theorem inSpace_of_step {start : Space} {enclosing : List Node} {place : Place} {node : Node}
    (h : Step (start.within (node :: enclosing)).schema place node) :
    InSpace start place ⟨node, enclosing⟩ where
  kind := h.kind
  element tag attrs uri hk := by
    obtain ⟨ha, hu⟩ := h.element tag attrs uri hk
    rw [elementNamespace_schema] at hu
    exact ⟨(Except.ok.inj hu).symm, ha⟩

/-- The nodes of a converted tree are in the spaces that the nodes around them give, wherever the
tree itself stands. -/
theorem occurrencesIn_inSpace {start : Space} {enclosing : List Node} {place : Place} {node : Node}
    (h : nodeAt (start.within enclosing).schema place = .ok node) :
    List.Forall₂ (InSpace start) place.walk (node.occurrencesIn enclosing) := by
  -- The invariant is that the schema at a place is the one that the enclosing nodes give.
  induction place using Place.induction generalizing enclosing node with
  | step place ih =>
    have hs := step_of_nodeAt h
    rw [schemaAt_schema, spaceAt_within hs.kind] at hs
    rw [Place.walk_eq, Node.occurrencesIn_eq]
    refine .cons (inSpace_of_step hs) (forall₂_flatMap ?_)
    refine ((List.forall₂_and_left _ _).mpr ⟨ih, hs.parts⟩).imp ?_
    rintro part child ⟨hspace, hchild⟩
    exact hspace hchild

end Conversion

namespace Forest

open Conversion
open Source (Place)

/-- After a source tree was converted into a forest, the nodes that a walk from the new root reaches
are those that the places of the source stand for, and every element among them is in the space that
the elements around it give: its namespace is that of SVG if it is an `svg` element or enclosed by
one, and otherwise that of the space in which the conversion started; its attributes are those that
the properties of the source give in the same space. -/
theorem order_in_space_of_enclosing {forest forest' : Forest} {id : String} {tree : Value}
    {start : Command.Space} {asFragment : Bool}
    (h : forest.convert id tree (.str start.name) asFragment = .ok forest') :
    ∃ root, forest'.find id = .ok root ∧
      (forest'.order root).map forest'.tree =
        (forest'.tree root).occurrences.map Node.Occurrence.node ∧
      List.Forall₂ (InSpace start) (Place.start tree asFragment).walk
        (forest'.tree root).occurrences := by
  rw [Forest.convert, Outcome.bind_eq_ok] at h
  obtain ⟨node, hn, h⟩ := h
  obtain rfl := Outcome.pure_eq_ok.mp h
  rw [documentTree_eq tree start.ofSpace?_name] at hn
  refine ⟨forest.cells.size, find_bind_self _ _ _, ?_, ?_⟩
  · rw [order_plant, tree_plant, Node.map_node_occurrences]
  · rw [tree_plant]
    have hspace : List.Forall₂ (InSpace start) (Place.start tree asFragment).walk
        (node.occurrencesIn []) := occurrencesIn_inSpace hn
    exact hspace

/-- An `svg` element with a template, whose content holds a root with an element, and a sibling. -/
def drawing : Value :=
  .obj [("type", .str "root"), ("children", .arr
    [.obj [("type", .str "element"), ("tagName", .str "svg"), ("properties", .obj []),
      ("children", .arr
        [.obj [("type", .str "element"), ("tagName", .str "template"),
          ("content", .obj [("children", .arr
            [.obj [("type", .str "root"), ("children", .arr
              [.obj [("type", .str "element"), ("tagName", .str "a")]])]])])]])],
     .obj [("type", .str "element"), ("tagName", .str "p")]])]

theorem order_in_space_of_enclosing_drawing :
    ∃ forest', Forest.empty.convert "r" drawing (.str "html") false = .ok forest' ∧
      ∃ root, forest'.find "r" = .ok root ∧
        (forest'.order root).map forest'.tree =
          (forest'.tree root).occurrences.map Node.Occurrence.node ∧
        List.Forall₂ (InSpace .html) (Place.start drawing false).walk
          (forest'.tree root).occurrences := by
  refine ⟨_, rfl, ?_⟩
  have h : Forest.empty.convert "r" drawing (.str Command.Space.html.name) false = .ok _ := rfl
  exact order_in_space_of_enclosing h

end Forest

end MarkupTree
