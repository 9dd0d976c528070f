import MarkupTree.Proofs.Attribute.Namespaces
import MarkupTree.Proofs.Conversion.Regular
import MarkupTree.Proofs.Node.Failing

/-!
# Converted trees that cannot be shown

A conversion takes any value for the tag of an element, also the names of nodes of other kinds.
These tags, and documents that are not at the top, are all that can keep a converted tree from being
shown.

Results:

* `isProper_of_step`: the node of one step is proper.
* `isProper_of_mem_preorder`: so are all nodes of a converted tree.
* `failsIf_shown`: exactly which converted trees have no object and no dump.
-/

namespace MarkupTree.Conversion

open Command (Space)
open Outcome (FailsIf)
open Source (field Place)

/-! ## One step -/

variable {space : Space} {place : Place} {node : Node}

/-- No child of a node is a fragment. -/
theorem kind_ne_fragment_of_mem_children {schema : Schema} (h : Step schema place node)
    {child : Node} (hc : child ∈ node.children) : child.label.kind ≠ .fragment := by
  intro hk
  obtain ⟨part, hpart, hchild⟩ := exists_of_forall₂_right h.children hc
  have hdescribes := (step_of_nodeAt hchild).kind
  rw [hk] at hdescribes
  have hfragment := asFragment_of_describes hdescribes
  rw [asFragment_of_mem_children hpart] at hfragment
  contradiction

/-- Every content is a fragment. -/
theorem kind_eq_fragment_of_mem_content {schema : Schema} (h : Step schema place node)
    {inner : Node} (hc : inner ∈ node.content) : inner.label.kind = .fragment := by
  obtain ⟨part, hpart, hinner⟩ := exists_of_forall₂_right h.content (Option.mem_toList.mpr hc)
  exact kind_of_asFragment (asFragment_of_mem_content hpart) (step_of_nodeAt hinner).kind

/-- An element that is no template has no content. -/
theorem content_eq_none_of_tag {schema : Schema} (h : Step schema place node) {tag uri : Value}
    {attrs : Option (List Attribute)} (hk : node.label.kind = .element tag attrs uri)
    (htag : tag.isText "template" = false) : node.content = none := by
  have hdescribes := h.kind
  rw [hk] at hdescribes
  apply content_eq_none h
  rw [Place.content, Place.isTemplate, field, hdescribes.2, Option.getD_some, htag, Bool.and_false]
  rfl

/-- The node of a step is proper. -/
theorem isProper_of_step (h : Step space.schema place node) : node.IsProper where
  regular := regular_of_step h
  children _ := kind_ne_fragment_of_mem_children h
  content _ := kind_eq_fragment_of_mem_content h
  element tag attrs uri hk := by
    obtain ⟨⟨list, rfl, ha⟩, huri⟩ := h.element tag attrs uri hk
    rw [elementNamespace_schema] at huri
    obtain rfl := Except.ok.inj huri
    refine ⟨⟨_, rfl⟩, fun a hmem => ?_, content_eq_none_of_tag h hk⟩
    exact (Attribute.isPlaced_of_mem ha hmem).nameText?_isSome

/-! ## Whole conversions -/

/-- All nodes of a converted tree are proper. -/
theorem isProper_of_mem_preorder {tree start : Value} {asFragment : Bool} {root : Node}
    (h : documentTree tree start asFragment = .ok root) (hn : node ∈ root.preorder) :
    node.IsProper := by
  obtain ⟨space', place, hstep⟩ := exists_step_of_documentTree h hn
  exact isProper_of_step hstep

/-- A converted tree has an object, and a JSON text, unless some element in it has the name of
texts, comments, doctypes or documents for its tag; then it lacks a member. It has a dump unless it
is itself an element with a list or an object for its tag, which is of the wrong type, or otherwise
some element in it has the name of texts, comments or doctypes for its tag or there is a document
below its top; then it lacks a member. -/
theorem failsIf_shown {tree start : Value} {asFragment : Bool} {root : Node}
    (h : documentTree tree start asFragment = .ok root) :
    FailsIf (root.preorder.any Node.lacksFields) .noSuchMember root.toValue ∧
      FailsIf (root.preorder.any Node.lacksFields) .noSuchMember (root.toJson none) ∧
      if root.isTaggedByContainer then root.dump 0 = .error .wrongType
      else FailsIf root.lacksDump .noSuchMember (root.dump 0) := by
  have hproper : ∀ n ∈ root.preorder, n.IsProper := fun _ => isProper_of_mem_preorder h
  have hregular : ∀ n ∈ root.preorder, n.IsRegular := fun n hn => (hproper n hn).regular
  refine ⟨Node.failsIf_toValue hregular, Node.failsIf_toJson hregular, ?_⟩
  cases htag : root.isTaggedByContainer with
  | true =>
    have hdump : root.dumpLines 0 = .error .wrongType :=
      Node.dumpLines_of_isTaggedByContainer (hregular root root.mem_preorder_self) htag
    rw [if_pos rfl, Node.dump, hdump]
    rfl
  | false => exact (Node.failsIf_dumpLines hproper htag rfl).map

/-- A root with an element that is called like a document, in which there is a text. -/
def disguised : Value :=
  .obj [("type", .str "root"), ("children", .arr
    [.obj [("type", .str "element"), ("tagName", .str "#document"),
      ("children", .arr [.obj [("type", .str "text"), ("value", .arr [])]])]])]

theorem failsIf_shown_disguised :
    ∃ root, documentTree disguised (.str "html") false = .ok root ∧
      root.toValue = .error .noSuchMember ∧ root.toJson none = .error .noSuchMember ∧
      ∃ text, root.dump 0 = .ok text := by
  have h : documentTree disguised (.str "html") false = .ok _ := rfl
  obtain ⟨hvalue, hjson, hdump⟩ := failsIf_shown h
  exact ⟨_, h, hvalue, hjson, hdump⟩

end MarkupTree.Conversion
