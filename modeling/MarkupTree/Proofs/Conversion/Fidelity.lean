import MarkupTree.Forest.Edit
import MarkupTree.Proofs.Conversion.Steps
import MarkupTree.Proofs.Forest.Planting

/-!
# Fidelity of a conversion

A conversion that succeeds makes one node for each place of the source tree. A walk through the
converted tree meets these nodes in the order in which a walk through the source meets the places.

Results:

* `matches_of_step`: what is made at one place matches it.
* `preorder_matches_walk`: the nodes of a converted tree match the places of the source one by one.
* `order_matches_walk`: so do the nodes that a walk through a forest reaches after a tree was
  converted into it.
-/

namespace MarkupTree

namespace Conversion

open Source (Place)

/-- Whether a node is the one that a place stands for: it has the kind and the data that the source
gives, as many children as the source, and a content if the source is a template. -/
structure Matches (place : Place) (node : Node) : Prop where
  kind : Describes place node.label.kind
  children : node.children.length = place.children.length
  content : node.content.isSome = place.isTemplate

theorem matches_of_step {schema : Schema} {place : Place} {node : Node}
    (h : Step schema place node) : Matches place node where
  kind := h.kind
  children := h.children.length_eq.symm
  content := by
    have hlen := h.content.length_eq
    rw [Option.length_toList, Option.length_toList, Place.content] at hlen
    cases ht : place.isTemplate with
    | true =>
      rw [ht] at hlen
      cases hc : node.content with
      | none =>
        rw [hc] at hlen
        contradiction
      | some content => rfl
    | false =>
      rw [ht] at hlen
      cases hc : node.content with
      | none => rfl
      | some content =>
        rw [hc] at hlen
        contradiction

/-- The nodes of a converted tree match the places of the source, one by one. -/
theorem preorder_matches_walk {schema : Schema} {place : Place} {node : Node}
    (h : nodeAt schema place = .ok node) :
    List.Forall₂ Matches place.walk node.preorder := by
  -- The schema changes on the way down, so the induction is over places with any schema.
  induction place using Place.induction generalizing schema node with
  | step place ih =>
    have hs := step_of_nodeAt h
    rw [Place.walk_eq, Node.preorder_eq]
    refine .cons (matches_of_step hs) (forall₂_flatMap ?_)
    refine ((List.forall₂_and_left _ _).mpr ⟨ih, hs.parts⟩).imp ?_
    rintro part child ⟨hmatch, hchild⟩
    exact hmatch hchild

end Conversion

namespace Forest

open Conversion
open Source (Place)

/-- After a source tree was converted into a forest, a walk from the new root reaches as many nodes
as a walk through the source reaches places, and each node is the one that its place stands for. -/
theorem order_matches_walk {forest forest' : Forest} {id : String} {tree space : Value}
    {asFragment : Bool} (h : forest.convert id tree space asFragment = .ok forest') :
    ∃ root, forest'.find id = .ok root ∧
      List.Forall₂ Matches (Place.start tree asFragment).walk
        ((forest'.order root).map forest'.tree) := by
  rw [Forest.convert, Outcome.bind_eq_ok] at h
  obtain ⟨node, hn, h⟩ := h
  obtain rfl := Outcome.pure_eq_ok.mp h
  refine ⟨forest.cells.size, find_bind_self _ _ _, ?_⟩
  rw [order_plant]
  cases hs : Schema.ofSpace? space with
  | error e =>
    rw [documentTree, hs] at hn
    contradiction
  | ok schema =>
    rw [documentTree_eq tree hs] at hn
    exact preorder_matches_walk hn

/-- A root with a template, in whose content there is a root again. -/
def nestedRoots : Value :=
  .obj [("type", .str "root"), ("children", .arr
    [.obj [("type", .str "element"), ("tagName", .str "template"),
      ("children", .arr [.obj [("type", .str "text"), ("value", .str "a")]]),
      ("content", .obj [("type", .str "root"), ("children", .arr
        [.obj [("type", .str "element"), ("tagName", .str "svg"),
          ("children", .arr [.obj [("type", .str "root")]])]])])],
     .obj [("type", .str "doctype")]])]

theorem order_matches_walk_nestedRoots :
    ∃ forest', Forest.empty.convert "r" nestedRoots (.str "html") true = .ok forest' ∧
      ∃ root, forest'.find "r" = .ok root ∧
        List.Forall₂ Matches (Place.start nestedRoots true).walk
          ((forest'.order root).map forest'.tree) := by
  refine ⟨_, rfl, ?_⟩
  have h : Forest.empty.convert "r" nestedRoots (.str "html") true = .ok _ := rfl
  exact order_matches_walk h

end Forest

end MarkupTree
