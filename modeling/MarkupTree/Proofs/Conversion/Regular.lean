import MarkupTree.Proofs.Attribute.Made
import MarkupTree.Proofs.Conversion.Made
import MarkupTree.Proofs.Node.Regular

/-!
# Objects of converted trees

A conversion makes regular nodes only, so that the object of a converted tree loses nothing of it.

Results:

* `regular_of_step`: the node of one step is regular.
* `isRegular_of_mem_preorder`: so are all nodes of a converted tree.
* `eq_of_toValue_eq`: nodes of converted trees with the same object are the same.
-/

namespace MarkupTree.Conversion

open Command (Space)
open Source (field Place)

/-! ## One step -/

theorem children_of_describes {place : Place} {kind : Node.Kind} (h : Describes place kind)
    (hk : kind.hasChildren = false) : place.children = [] := by
  have hparent : place.isParent = false := by
    cases hf : place.asFragment with
    | true =>
      have hn : place.kind? = none := if_pos hf
      cases kind with
      | plain => exact h.elim
      | parent => exact h.elim
      | document | element | fragment => contradiction
      | text | comment | doctype =>
        rw [Describes, hn] at h
        exact absurd h.1 (by simp)
    | false =>
      cases kind with
      | plain => exact h.elim
      | parent => exact h.elim
      | document | element | fragment => contradiction
      | text | comment | doctype =>
        rw [Place.isParent, hf, h.1]
        rfl
  rw [Place.children, hparent]
  rfl

theorem content_of_describes {place : Place} {kind : Node.Kind} (h : Describes place kind)
    (hk : kind.hasContent = false) : place.content = none := by
  have htemplate : place.isTemplate = false := by
    rw [Place.isTemplate]
    cases kind with
    | plain => exact h.elim
    | parent => exact h.elim
    | element => contradiction
    | fragment =>
      have hn : place.kind? = none := if_pos h
      rw [hn]
      rfl
    | _ =>
      rw [h.1]
      rfl
  rw [Place.content, htemplate]
  rfl

/-- What is made of the children of a place is not made of a fragment. -/
theorem asFragment_of_mem_children {place part : Place} (h : part ∈ place.children) :
    part.asFragment = false := by
  rw [Place.children] at h
  split at h
  · obtain ⟨v, -, rfl⟩ := List.mem_map.mp h
    rfl
  · exact absurd h List.not_mem_nil

theorem asFragment_of_mem_content {place part : Place} (h : part ∈ place.content.toList) :
    part.asFragment = true := by
  rw [Option.mem_toList, Place.content] at h
  split at h
  · obtain rfl := Option.some.inj h
    rfl
  · contradiction

theorem kind_of_asFragment {place : Place} {kind : Node.Kind} (hf : place.asFragment = true)
    (h : Describes place kind) : kind = .fragment := by
  have hn : place.kind? = none := if_pos hf
  cases kind with
  | fragment => rfl
  | plain => exact h.elim
  | parent => exact h.elim
  | _ =>
    rw [Describes, hn] at h
    exact absurd h.1 (by simp)

theorem asFragment_of_describes {place : Place} (h : Describes place .fragment) :
    place.asFragment = true := h

theorem qualifier_of_not_foreign (entry : Attribute.Entry)
    (h : entry.toAttribute.isForeign = false) : entry.toAttribute.qualifier = .null := by
  rcases Attribute.toAttribute_cases entry with ⟨-, ha⟩ | ⟨uri, -, ha⟩
  · rw [ha]
  · rw [ha] at h
    contradiction

/-- Where the source has no content, the node of a step has none. -/
theorem content_eq_none {schema : Schema} {place : Place} {node : Node}
    (h : Step schema place node) (hc : place.content = none) : node.content = none := by
  have hcontent := h.content
  rw [hc] at hcontent
  cases hn : node.content with
  | none => rfl
  | some inner =>
    rw [hn] at hcontent
    contradiction

/-- The node of a step is regular. -/
theorem regular_of_step {space : Space} {place : Place} {node : Node}
    (h : Step space.schema place node) : node.IsRegular where
  kind := by
    cases hk : node.label.kind with
    | plain =>
      have hd := h.kind
      rw [hk] at hd
      exact hd.elim
    | parent =>
      have hd := h.kind
      rw [hk] at hd
      exact hd.elim
    | element tag attrs uri =>
      obtain ⟨⟨list, rfl, hattrs⟩, -⟩ := h.element tag attrs uri hk
      refine ⟨list, rfl, fun a ha hf => ?_⟩
      obtain ⟨entry, -, rfl⟩ := Attribute.exists_entry_of_mem hattrs ha
      exact qualifier_of_not_foreign entry hf
    | _ => trivial
  name := h.name
  children hk := by
    have hc := h.children
    rw [children_of_describes h.kind hk] at hc
    exact List.forall₂_nil_left_iff.mp hc
  content hk := content_eq_none h (content_of_describes h.kind hk)

/-! ## Whole conversions -/

/-- All nodes of a converted tree are regular. -/
theorem isRegular_of_mem_preorder {tree space : Value} {asFragment : Bool} {root node : Node}
    (h : documentTree tree space asFragment = .ok root) (hn : node ∈ root.preorder) :
    node.IsRegular := by
  obtain ⟨space', place, hstep⟩ := exists_step_of_documentTree h hn
  exact regular_of_step hstep

theorem isShown_of_mem_preorder {tree space : Value} {asFragment : Bool} {root node : Node}
    (h : documentTree tree space asFragment = .ok root) (hn : node ∈ root.preorder)
    (hf : ∀ n ∈ node.preorder, ¬ n.IsFragmentElement) : node.IsShown :=
  fun n hmem => ⟨isRegular_of_mem_preorder h (Node.mem_preorder_trans hn hmem), hf n hmem⟩

/-- Two nodes of converted trees are the same, with everything below them, if they are shown as the
same object and there is no element in them that is shown under the name of fragments. -/
theorem eq_of_toValue_eq {tree tree' space space' data : Value} {asFragment asFragment' : Bool}
    {root root' a b : Node} (h : documentTree tree space asFragment = .ok root)
    (h' : documentTree tree' space' asFragment' = .ok root') (ha : a ∈ root.preorder)
    (hb : b ∈ root'.preorder) (hfa : ∀ n ∈ a.preorder, ¬ n.IsFragmentElement)
    (hfb : ∀ n ∈ b.preorder, ¬ n.IsFragmentElement) (hva : a.toValue = .ok data)
    (hvb : b.toValue = .ok data) : a = b :=
  Node.toValue_injective (isShown_of_mem_preorder h ha hfa) (isShown_of_mem_preorder h' hb hfb)
    hva hvb

/-- A paragraph with a text. -/
def paragraph : Value :=
  .obj [("type", .str "element"), ("tagName", .str "p"), ("children", .arr
    [.obj [("type", .str "text"), ("value", .str "a")]])]

/-- The same paragraph in a document. -/
def page : Value := .obj [("type", .str "root"), ("children", .arr [paragraph])]

/-- The node that the paragraph is converted to. -/
def paragraphNode : Node :=
  .element (.str "p") [] (.str Namespace.html) none [.ofKind (.text (.str "a")) none []] none

theorem eq_of_toValue_eq_paragraph :
    ∃ root root' a b data, documentTree page (.str "html") false = .ok root ∧
      documentTree paragraph (.str "html") true = .ok root' ∧ a ∈ root.preorder ∧
      b ∈ root'.preorder ∧ (∀ n ∈ a.preorder, ¬ n.IsFragmentElement) ∧
      (∀ n ∈ b.preorder, ¬ n.IsFragmentElement) ∧ a.toValue = .ok data ∧ b.toValue = .ok data ∧
      a = b := by
  have h : documentTree page (.str "html") false =
      .ok (.ofKind (.document (.str "no-quirks")) none [paragraphNode]) := rfl
  have h' : documentTree paragraph (.str "html") true = .ok paragraphNode := rfl
  have hb := paragraphNode.mem_preorder_self
  have ha : paragraphNode ∈
      (Node.ofKind (.document (.str "no-quirks")) none [paragraphNode]).preorder :=
    Node.mem_preorder_of_mem_parts List.mem_cons_self hb
  have hf : ∀ n ∈ paragraphNode.preorder, ¬ n.IsFragmentElement := by
    have hp : paragraphNode.preorder = [paragraphNode, .ofKind (.text (.str "a")) none []] := rfl
    rw [hp, List.forall_mem_cons, List.forall_mem_singleton]
    constructor
    · rintro ⟨attrs, uri, hk⟩
      simp [paragraphNode, Node.element, Node.Label.ofKind] at hk
    · rintro ⟨attrs, uri, hk⟩
      simp [Node.ofKind, Node.Label.ofKind] at hk
  obtain ⟨data, hv⟩ : ∃ data, paragraphNode.toValue = .ok data := ⟨_, rfl⟩
  exact ⟨_, _, _, _, data, h, h', ha, hb, hf, hf, hv, hv, eq_of_toValue_eq h h' ha hb hf hf hv hv⟩

end MarkupTree.Conversion
