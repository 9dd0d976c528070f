import MarkupTree.Proofs.Conversion.Steps
import MarkupTree.Proofs.Schema.Space

/-!
# Spaces and nodes of a conversion

A conversion that starts with one of the two schemas only ever uses these two, and whatever holds of
the node of each single step holds of all nodes of a converted tree.

Results:

* `schemaAt_schema`: the schema for a place is that of HTML or that of SVG.
* `elementNamespace_schema`: the namespace of its elements is known.
* `exists_step_of_mem_preorder`: every node of a converted tree is that of a step at some place.
* `exists_space_of_documentTree`: a conversion that succeeds starts in one of the two spaces.
* `exists_step_of_documentTree`: so every node that a conversion makes is that of a step.
-/

namespace MarkupTree

/-- The space inside an element with a tag. -/
def Command.Space.inside (space : Command.Space) (tag : Value) : Command.Space :=
  if tag.isText "svg" then .svg else space

namespace Conversion

open Command (Space)
open Source (field Place)

/-! ## Spaces -/

/-- The space of a place and what is below it. -/
def spaceAt (space : Space) (place : Place) : Space :=
  if place.kind? = some .element then space.inside (field place.fields "tagName") else space

theorem schemaFor_schema (space : Space) (tag : Value) :
    schemaFor space.schema tag = (space.inside tag).schema := by
  rw [Space.inside]
  cases space with
  | html =>
    have hs : Space.html.schema.space = "html" := rfl
    rw [schemaFor, hs, beq_self_eq_true, Bool.true_and]
    cases tag.isText "svg" <;> rfl
  | svg =>
    have hs : Space.svg.schema.space ≠ "html" := by
      show "svg" ≠ "html"
      decide
    rw [schemaFor_of_space_ne hs, ite_self]

theorem schemaAt_schema (space : Space) (place : Place) :
    schemaAt space.schema place = (spaceAt space place).schema := by
  rw [schemaAt, spaceAt, schemaFor_schema, apply_ite Space.schema]

theorem elementNamespace_schema (space : Space) :
    elementNamespace space.schema = .ok (.str space.uri) := by
  cases space <;> rfl

/-! ## Nodes -/

theorem exists_space_of_ofSpace? {v : Value} {schema : Schema}
    (h : Schema.ofSpace? v = .ok schema) : ∃ space : Space, schema = space.schema := by
  rw [Schema.ofSpace?] at h
  split at h
  · exact ⟨.html, (Except.ok.inj h).symm⟩
  split at h
  · exact ⟨.svg, (Except.ok.inj h).symm⟩
  · contradiction

theorem ofSpace?_of_ne {v : Value} (h : ∀ space : Space, v ≠ .str space.name) :
    Schema.ofSpace? v = .error (.unknownSpace v) := by
  have hhtml : ¬ v.isText "html" = true := fun hv => h .html (Value.isText_iff.mp hv)
  have hsvg : ¬ v.isText "svg" = true := fun hv => h .svg (Value.isText_iff.mp hv)
  rw [Schema.ofSpace?, if_neg hhtml, if_neg hsvg]

/-- A conversion that succeeds starts in one of the two spaces. -/
theorem exists_space_of_documentTree {tree v : Value} {asFragment : Bool} {node : Node}
    (h : documentTree tree v asFragment = .ok node) :
    ∃ space : Space, nodeAt space.schema (.start tree asFragment) = .ok node := by
  obtain ⟨schema, hs, hn⟩ := exists_nodeAt_of_documentTree h
  obtain ⟨space, rfl⟩ := exists_space_of_ofSpace? hs
  exact ⟨space, hn⟩

/-- Every node of a converted tree is that of a step, at a place that a walk through the source
reaches. -/
theorem exists_step_of_mem_preorder {space : Space} {place : Place} {root node : Node}
    (h : nodeAt space.schema place = .ok root) (hn : node ∈ root.preorder) :
    ∃ space' : Space, ∃ place' ∈ place.walk, Step space'.schema place' node := by
  -- The schema changes on the way down, so the induction is over places in any space.
  induction place using Place.induction generalizing space root with
  | step place ih =>
    have hs := step_of_nodeAt h
    rw [schemaAt_schema] at hs
    rw [Node.preorder_eq] at hn
    rw [Place.walk_eq]
    rcases List.mem_cons.mp hn with rfl | hn
    · exact ⟨_, place, List.mem_cons_self, hs⟩
    · obtain ⟨child, hc, hn⟩ := List.mem_flatMap.mp hn
      obtain ⟨part, hpart, hchild⟩ := exists_of_forall₂_right hs.parts hc
      obtain ⟨space', place', hw, hstep⟩ := ih part hpart hchild hn
      exact ⟨space', place', List.mem_cons_of_mem _ (List.mem_flatMap.mpr ⟨part, hpart, hw⟩), hstep⟩

theorem exists_step_of_documentTree {tree start : Value} {asFragment : Bool} {root node : Node}
    (h : documentTree tree start asFragment = .ok root) (hn : node ∈ root.preorder) :
    ∃ (space : Space) (place : Place), Step space.schema place node := by
  obtain ⟨space, hs⟩ := exists_space_of_documentTree h
  obtain ⟨space', place, -, hstep⟩ := exists_step_of_mem_preorder hs hn
  exact ⟨space', place, hstep⟩

end Conversion

end MarkupTree
