import MarkupTree.Proofs.Conversion.FirstDefect
import MarkupTree.Proofs.Conversion.Namespaces

/-!
# What depends on the initial space

Two conversions of the same source that start in different spaces fail alike, and if they succeed
their trees differ at most in the attributes and the namespaces of elements outside of `svg`
elements. To say so, these two are left out of a tree wherever no `svg` element encloses them.

Results:

* `nodeAt_of_isSvg`: an `svg` element is converted in the same way in both spaces.
* `outline_eq_of_nodeAt`: two conversions that succeed give the same outline.
* `outline_documentTree`: two conversions give the same outline or the same failure.
-/

namespace MarkupTree

/-! ## Outlines -/

/-- A kind of node without what depends on the space of an element. -/
def Node.Kind.outline : Node.Kind → Node.Kind
  | .element tag _ _ => .element tag none .null
  | kind => kind

theorem Node.Kind.nodeName_outline (kind : Node.Kind) : kind.outline.nodeName = kind.nodeName := by
  cases kind <;> rfl

/-- A label without what depends on the space of an element. -/
def Node.Label.outline (label : Node.Label) : Node.Label :=
  { label with kind := label.kind.outline }

namespace Node

mutual

/-- A tree in which the attributes and the namespaces of elements are left out. An `svg` element is
kept whole, with everything below it. -/
def outline : Node → Node
  | mk label children content =>
    if (mk label children content).isSvg then mk label children content
    else mk label.outline (outlineAll children) (outlineOpt content)

/-- The outlines of several trees. -/
def outlineAll : List Node → List Node
  | [] => []
  | node :: rest => outline node :: outlineAll rest

/-- The outline of a content. -/
def outlineOpt : Option Node → Option Node
  | none => none
  | some node => some (outline node)

end

theorem outlineAll_eq_map (nodes : List Node) : outlineAll nodes = nodes.map outline := by
  induction nodes with
  | nil => rfl
  | cons node rest ih => rw [outlineAll, ih, List.map_cons]

theorem outlineOpt_eq_map (content : Option Node) : outlineOpt content = content.map outline := by
  cases content <;> rfl

theorem outline_of_not_isSvg {node : Node} (h : node.isSvg = false) :
    node.outline =
      mk node.label.outline (node.children.map outline) (node.content.map outline) := by
  cases node
  rw [outline, h, outlineAll_eq_map, outlineOpt_eq_map]
  rfl

end Node

namespace Conversion

open Command (Space)
open Source (field Place)

variable {place : Place}

/-! ## Elements that enter SVG -/

/-- An `svg` element is converted in the same way from any space. -/
theorem nodeAt_of_isSvg (hk : place.kind? = some .element)
    (ht : (field place.fields "tagName").isText "svg" = true) (space space' : Space) :
    nodeAt space.schema place = nodeAt space'.schema place := by
  have hvalue := Place.value_eq_obj (Place.fields_ne_nil_of_kind? hk)
  have hinside : ∀ space : Space, space.inside (field place.fields "tagName") = .svg :=
    fun _ => if_pos ht
  rw [Place.kind?] at hk
  split at hk
  · contradiction
  · rename_i hf
    rw [nodeAt, nodeAt, if_neg hf, if_neg hf, hvalue]
    cases htag : place.fields.lookup "tagName" with
    | none => rw [convert_element_of_no_tag hk htag, convert_element_of_no_tag hk htag]
    | some tag =>
      rw [field, htag, Option.getD_some] at hinside
      rw [convert_element hk htag, convert_element hk htag, schemaFor_schema, schemaFor_schema,
        hinside, hinside]

/-! ## Two conversions -/

/-- The kind of node that a place stands for, without what depends on the space. -/
def outlineAt (place : Place) : Node.Kind :=
  match place.kind? with
  | none => .fragment
  | some .root => .document (.str (if Source.isQuirks place.fields then "quirks" else "no-quirks"))
  | some .element => .element (field place.fields "tagName") none .null
  | some .text => .text (Source.payload place.fields)
  | some .comment => .comment (Source.payload place.fields)
  | some .doctype => .doctype (.str "html") (.str "") (.str "")

theorem outline_of_describes {kind : Node.Kind} (h : Describes place kind) :
    kind.outline = outlineAt place := by
  rw [outlineAt]
  cases kind with
  | plain => exact h.elim
  | parent => exact h.elim
  | fragment =>
    have hn : place.kind? = none := if_pos h
    rw [hn]
    rfl
  | element tag attrs uri =>
    rw [h.1, field, h.2]
    rfl
  | doctype name publicId systemId =>
    rw [h.1, h.2.1, h.2.2.1, h.2.2.2]
    rfl
  | _ =>
    rw [h.1, h.2]
    rfl

theorem map_eq_map_of_forall₂ {α β γ : Type} {R S : α → β → Prop} {f : β → γ} {xs : List α}
    {ys zs : List β} (h : List.Forall₂ R xs ys) (h' : List.Forall₂ S xs zs)
    (hf : ∀ x ∈ xs, ∀ y z, R x y → S x z → f y = f z) : ys.map f = zs.map f := by
  induction h generalizing zs with
  | nil =>
    cases h'
    rfl
  | cons hxy _ ih =>
    obtain ⟨z, zs, hxz, hrest, rfl⟩ := List.forall₂_cons_left_iff.mp h'
    rw [List.map_cons, List.map_cons, hf _ List.mem_cons_self _ _ hxy hxz,
      ih hrest fun x hx => hf x (List.mem_cons_of_mem _ hx)]

/-- The nodes of one place have the same label, but for what depends on the space. -/
theorem label_outline_of_step {schema schema' : Schema} {node node' : Node}
    (h : Step schema place node) (h' : Step schema' place node') :
    node.label.outline = node'.label.outline := by
  have hkind := (outline_of_describes h.kind).trans (outline_of_describes h'.kind).symm
  have hname : node.label.name = node'.label.name := by
    rw [h.name, h'.name, ← Node.Kind.nodeName_outline, hkind, Node.Kind.nodeName_outline]
  have hlocation := Except.ok.inj (h.location.symm.trans h'.location)
  rw [Node.Label.outline, Node.Label.outline, hkind, hname, hlocation]

/-- Two conversions of one place that succeed give the same outline. -/
theorem outline_eq_of_nodeAt {space space' : Space} {node node' : Node}
    (h : nodeAt space.schema place = .ok node) (h' : nodeAt space'.schema place = .ok node') :
    node.outline = node'.outline := by
  induction place using Place.induction generalizing space space' node node' with
  | step place ih =>
    have hs := step_of_nodeAt h
    have hs' := step_of_nodeAt h'
    have hsvg := isSvg_of_describes hs.kind
    have hsvg' := isSvg_of_describes hs'.kind
    cases hin : place.kind? == some .element && (field place.fields "tagName").isText "svg" with
    | true =>
      -- From here on the two conversions use the same schema.
      rw [Bool.and_eq_true, beq_iff_eq] at hin
      rw [nodeAt_of_isSvg hin.1 hin.2 space space', h'] at h
      rw [Except.ok.inj h]
    | false =>
      rw [hin] at hsvg hsvg'
      rw [schemaAt_schema] at hs hs'
      have hparts : ∀ part ∈ place.parts, ∀ child child',
          nodeAt (spaceAt space place).schema part = .ok child →
          nodeAt (spaceAt space' place).schema part = .ok child' → child.outline = child'.outline :=
        fun part hpart child child' hc hc' => ih part hpart hc hc'
      have hchildren := map_eq_map_of_forall₂ hs.children hs'.children fun part hpart =>
        hparts part (List.mem_append_left _ hpart)
      have hcontent := map_eq_map_of_forall₂ hs.content hs'.content fun part hpart =>
        hparts part (List.mem_append_right _ hpart)
      rw [Node.outline_of_not_isSvg hsvg, Node.outline_of_not_isSvg hsvg',
        label_outline_of_step hs hs', hchildren]
      rw [← Option.toList_map, ← Option.toList_map] at hcontent
      rw [← Option.head?_toList (o := node.content.map _), hcontent, Option.head?_toList]

/-- Two conversions of one source that start in different spaces fail alike, or both succeed with
trees of the same outline. -/
theorem outline_documentTree (tree : Value) (asFragment : Bool) :
    (documentTree tree (.str "html") asFragment).map Node.outline =
      (documentTree tree (.str "svg") asFragment).map Node.outline := by
  have hspace : ∀ space : Space, documentTree tree (.str space.name) asFragment =
      nodeAt space.schema (.start tree asFragment) :=
    fun space => documentTree_eq tree space.ofSpace?_name asFragment
  rw [show "html" = Space.html.name from rfl, show "svg" = Space.svg.name from rfl, hspace, hspace]
  have hfail := (failure?_nodeAt .html (.start tree asFragment)).trans
    (failure?_nodeAt .svg (.start tree asFragment)).symm
  cases hhtml : nodeAt Space.html.schema (.start tree asFragment) with
  | error e =>
    rw [hhtml] at hfail
    rw [Outcome.failure?_eq_some.mp hfail.symm]
  | ok node =>
    rw [hhtml] at hfail
    obtain ⟨node', hsvg⟩ := Outcome.failure?_eq_none.mp hfail.symm
    rw [hsvg]
    exact congrArg Except.ok (outline_eq_of_nodeAt hhtml hsvg)

end Conversion

end MarkupTree
