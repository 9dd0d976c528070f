import Mathlib.Data.List.Forall2
import MarkupTree.Conversion
import MarkupTree.Proofs.Node.Walk
import MarkupTree.Proofs.Outcome
import MarkupTree.Proofs.Path
import MarkupTree.Proofs.Source.Walk

/-!
# One step of a conversion

A conversion goes from place to place through a source tree and makes a node at each. What it does
at one place is said here once, for sources of every kind.

Results:

* `convert_root`, `convert_element`, `convert_leaf`: how a source of each kind is converted.
* `step_of_nodeAt`: a successful conversion makes a node of the right kind, with the data of the
  source, and goes on to exactly the places that are right below.
* `documentTree_eq`: the whole conversion starts at a single place.
-/

namespace MarkupTree.Conversion

open Source (field Place)
open Outcome (bind_eq_ok pure_eq_ok)

variable {schema : Schema} {fields : List (String × Value)}

/-! ## Sources of each kind -/

/-- The content of an element with a tag, if the tag makes it a template. -/
def contentOf (schema : Schema) (tag content : Value) : Except Failure (Option Node) :=
  if tag.isText "template" then some <$> fragment schema content else .ok none

theorem convert_root (h : Source.kind? fields = some .root) :
    convert schema (.obj fields) = do
      let mode ← Source.mode fields
      let children ← childList schema (field fields "children")
      let location ← Source.location fields
      return .ofKind (.document mode) location children := by
  rw [convert, h, childrenIn_eq]

theorem convert_element {tag : Value} (h : Source.kind? fields = some .element)
    (ht : fields.lookup "tagName" = some tag) :
    convert schema (.obj fields) = do
      let attrs ← Attribute.ofProperties (schemaFor schema tag) (field fields "properties")
      let namespaceURI ← elementNamespace (schemaFor schema tag)
      let location ← Source.location fields
      let children ← childList (schemaFor schema tag) (field fields "children")
      let content ← contentOf (schemaFor schema tag) tag (field fields "content")
      return .element tag attrs namespaceURI location children content := by
  rw [convert, h]
  simp only [ht, childrenIn_eq, contentIn_eq, contentOf]
  split
  · simp only [map_eq_pure_bind, bind_assoc, pure_bind]
  · rfl

theorem convert_element_of_no_tag (h : Source.kind? fields = some .element)
    (ht : fields.lookup "tagName" = none) :
    convert schema (.obj fields) = .error (.missingKey (.str "tagName")) := by
  rw [convert, h]
  simp only [ht]
  rfl

/-- The kind of node that a source without children stands for. -/
def leafKind? (fields : List (String × Value)) : Source.Kind → Option Node.Kind
  | .text => some (.text (Source.payload fields))
  | .comment => some (.comment (Source.payload fields))
  | .doctype => some (.doctype (.str "html") (.str "") (.str ""))
  | .root => none
  | .element => none

theorem convert_leaf {kind : Source.Kind} {nodeKind : Node.Kind} (h : Source.kind? fields = some kind)
    (hl : leafKind? fields kind = some nodeKind) :
    convert schema (.obj fields) = do
      let location ← Source.location fields
      return .ofKind nodeKind location [] := by
  rw [convert, h]
  cases kind with
  | root => contradiction
  | element => contradiction
  | _ =>
    cases hl
    rfl

theorem convert_of_no_kind (h : Source.kind? fields = none) :
    convert schema (.obj fields) = .error (.unsupportedKind (field fields "type")) := by
  rw [convert, h]

theorem convert_of_ne_obj {v : Value} (h : ∀ fields, v ≠ .obj fields) :
    convert schema v = .error (.unsupportedKind .null) := by
  cases v with
  | obj fields => exact absurd rfl (h fields)
  | _ => rfl

theorem fragment_obj (schema : Schema) (fields : List (String × Value)) :
    fragment schema (.obj fields) = do
      let children ← childList schema (field fields "children")
      let location ← Source.location fields
      return .ofKind .fragment location children := by
  rw [fragment, childrenIn_eq]

theorem fragment_of_ne_obj {v : Value} (h : ∀ fields, v ≠ .obj fields) :
    fragment schema v =
      if v.truthy then .error .noSuchMember else .ok (.ofKind .fragment none []) := by
  cases v with
  | obj fields => exact absurd rfl (h fields)
  | _ => rfl

/-- The failure of a value that stands for a list of children but is none. -/
def unlistable : Value → Failure
  | .str _ => .unsupportedKind .null
  | .obj _ => .unsupportedKind .null
  | _ => .wrongType

theorem childList_of_ne_arr (schema : Schema) {v : Value} (h : ∀ items, v ≠ .arr items) :
    childList schema v = if v.truthy then .error (unlistable v) else .ok [] := by
  cases v with
  | arr items => exact absurd rfl (h items)
  | _ => rfl

/-- An absent value describes the same fragment as an object without fields. -/
theorem fragment_orEmpty (schema : Schema) (v : Value) :
    fragment schema (Source.orEmpty v) = fragment schema v := by
  rw [Source.orEmpty]
  split
  · rfl
  · rename_i hv
    have he : fragment schema (.obj []) = .ok (.ofKind .fragment none []) := rfl
    cases v with
    | obj fields =>
      cases fields with
      | nil => rfl
      | cons => exact absurd rfl hv
    | _ => rw [he, fragment_of_ne_obj (by simp), if_neg hv]

theorem mode_eq_ok {mode : Value} (h : Source.mode fields = .ok mode) :
    mode = .str (if Source.isQuirks fields then "quirks" else "no-quirks") := by
  rw [Source.isQuirks]
  unfold Source.mode at h
  cases hd : field fields "data" with
  | obj data =>
    rw [hd] at h
    cases data with
    | nil => exact (Except.ok.inj h).symm
    | cons => exact (Except.ok.inj h).symm
  | _ =>
    rw [hd] at h
    revert h
    simp only [Source.member]
    split
    · intro h
      exact (Except.ok.inj h).symm
    · intro h
      contradiction

/-! ## Places -/

/-- The node that a place of a source tree describes. -/
def nodeAt (schema : Schema) (place : Place) : Except Failure Node :=
  if place.asFragment then fragment schema place.value else convert schema place.value

/-- The schema for a place and what is below it. -/
def schemaAt (schema : Schema) (place : Place) : Schema :=
  if place.kind? = some .element then schemaFor schema (field place.fields "tagName") else schema

theorem schemaAt_element {place : Place} (h : place.kind? = some .element) :
    schemaAt schema place = schemaFor schema (field place.fields "tagName") :=
  if_pos h

theorem schemaAt_of_ne_element {place : Place} (h : place.kind? ≠ some .element) :
    schemaAt schema place = schema :=
  if_neg h

/-- What the source at a place says of the kind of its node, and of the data that comes with it. -/
def Describes (place : Place) : Node.Kind → Prop
  | .document mode =>
    place.kind? = some .root ∧
      mode = .str (if Source.isQuirks place.fields then "quirks" else "no-quirks")
  | .fragment => place.asFragment = true
  | .element tag _ _ => place.kind? = some .element ∧ place.fields.lookup "tagName" = some tag
  | .text value => place.kind? = some .text ∧ value = Source.payload place.fields
  | .comment data => place.kind? = some .comment ∧ data = Source.payload place.fields
  | .doctype name publicId systemId =>
    place.kind? = some .doctype ∧ name = .str "html" ∧ publicId = .str "" ∧ systemId = .str ""
  | .plain => False
  | .parent => False

/-- All that a conversion does at one place, with the schema that is used there. -/
structure Step (schema : Schema) (place : Place) (node : Node) : Prop where
  kind : Describes place node.label.kind
  name : node.label.name = node.label.kind.nodeName
  /-- The attributes and the namespace of an element are those of the schema. -/
  element : ∀ tag attrs uri, node.label.kind = .element tag attrs uri →
    (∃ list, attrs = some list ∧
      Attribute.ofProperties schema (field place.fields "properties") = .ok list) ∧
    elementNamespace schema = .ok uri
  location : Source.location place.fields = .ok node.label.location
  /-- Children are converted with the same schema, each on its own. -/
  children : List.Forall₂ (fun part child => nodeAt schema part = .ok child)
    place.children node.children
  content : List.Forall₂ (fun part child => nodeAt schema part = .ok child)
    place.content.toList node.content.toList

theorem forall₂_of_convertAll {items : List Value} {nodes : List Node}
    (h : convertAll schema items = .ok nodes) :
    List.Forall₂ (fun v node => convert schema v = .ok node) items nodes := by
  induction items generalizing nodes with
  | nil =>
    obtain rfl := pure_eq_ok.mp h
    exact .nil
  | cons v rest ih =>
    rw [convertAll, bind_eq_ok] at h
    obtain ⟨node, hn, h⟩ := h
    rw [bind_eq_ok] at h
    obtain ⟨others, ho, h⟩ := h
    obtain rfl := pure_eq_ok.mp h
    exact .cons hn (ih ho)

theorem forall₂_of_childList {v : Value} {nodes : List Node} (h : childList schema v = .ok nodes) :
    List.Forall₂ (fun part child => nodeAt schema part = .ok child)
      ((Source.itemsOf v).map (⟨·, false⟩)) nodes := by
  rw [List.forall₂_map_left_iff]
  by_cases hv : ∃ items, v = .arr items
  · obtain ⟨items, rfl⟩ := hv
    exact forall₂_of_convertAll h
  · rw [not_exists] at hv
    rw [childList_of_ne_arr schema hv] at h
    split at h
    · contradiction
    · obtain rfl := Except.ok.inj h
      rw [Source.itemsOf_of_ne_arr hv]
      exact .nil

theorem forall₂_of_contentOf {place : Place} {tag : Value} {content : Option Node}
    (hk : place.kind? = some .element) (ht : field place.fields "tagName" = tag)
    (h : contentOf schema tag (field place.fields "content") = .ok content) :
    List.Forall₂ (fun part child => nodeAt schema part = .ok child)
      place.content.toList content.toList := by
  rw [Place.content, Place.isTemplate, hk, ht]
  rw [contentOf] at h
  split at h
  · rename_i htemplate
    rw [map_eq_pure_bind, bind_eq_ok] at h
    obtain ⟨node, hn, h⟩ := h
    obtain rfl := pure_eq_ok.mp h
    rw [htemplate]
    refine .cons ?_ .nil
    rw [← hn]
    exact fragment_orEmpty _ _
  · rename_i htemplate
    obtain rfl := Except.ok.inj h
    rw [Bool.not_eq_true] at htemplate
    rw [htemplate]
    exact .nil

/-! ## Successful steps -/

theorem step_of_fragment {v : Value} {node : Node} (h : fragment schema v = .ok node) :
    Step schema ⟨v, true⟩ node := by
  by_cases hv : ∃ fields, v = .obj fields
  · obtain ⟨fields, rfl⟩ := hv
    rw [fragment_obj, bind_eq_ok] at h
    obtain ⟨children, hc, h⟩ := h
    rw [bind_eq_ok] at h
    obtain ⟨location, hl, h⟩ := h
    obtain rfl := pure_eq_ok.mp h
    exact
      { kind := rfl
        name := rfl
        element := fun _ _ _ he => by contradiction
        location := hl
        children := forall₂_of_childList hc
        content := .nil }
  · rw [not_exists] at hv
    rw [fragment_of_ne_obj hv] at h
    split at h
    · contradiction
    · obtain rfl := Except.ok.inj h
      have hf : (⟨v, true⟩ : Place).fields = [] := Source.fieldsOf_of_ne_obj hv
      refine
        { kind := rfl
          name := rfl
          element := fun _ _ _ he => by contradiction
          location := ?_
          children := ?_
          content := .nil }
      · rw [hf]
        rfl
      · rw [Place.children, hf]
        exact .nil

theorem step_of_root {node : Node} (hk : Source.kind? fields = some .root)
    (h : convert schema (.obj fields) = .ok node) : Step schema ⟨.obj fields, false⟩ node := by
  have hplace : (⟨.obj fields, false⟩ : Place).kind? = some .root := hk
  rw [convert_root hk, bind_eq_ok] at h
  obtain ⟨mode, hm, h⟩ := h
  rw [bind_eq_ok] at h
  obtain ⟨children, hc, h⟩ := h
  rw [bind_eq_ok] at h
  obtain ⟨location, hl, h⟩ := h
  obtain rfl := pure_eq_ok.mp h
  refine
    { kind := ⟨hplace, mode_eq_ok hm⟩
      name := rfl
      element := fun _ _ _ he => by contradiction
      location := hl
      children := ?_
      content := ?_ }
  · rw [Place.children, Place.isParent, hplace]
    exact forall₂_of_childList hc
  · rw [Place.content, Place.isTemplate, hplace]
    exact .nil

theorem step_of_element {node : Node} (hk : Source.kind? fields = some .element)
    (h : convert schema (.obj fields) = .ok node) :
    Step (schemaFor schema (field fields "tagName")) ⟨.obj fields, false⟩ node := by
  have hplace : (⟨.obj fields, false⟩ : Place).kind? = some .element := hk
  cases ht : fields.lookup "tagName" with
  | none =>
    rw [convert_element_of_no_tag hk ht] at h
    contradiction
  | some tag =>
    have hfield : field fields "tagName" = tag := by rw [field, ht, Option.getD_some]
    rw [convert_element hk ht, bind_eq_ok] at h
    obtain ⟨attrs, ha, h⟩ := h
    rw [bind_eq_ok] at h
    obtain ⟨uri, hu, h⟩ := h
    rw [bind_eq_ok] at h
    obtain ⟨location, hl, h⟩ := h
    rw [bind_eq_ok] at h
    obtain ⟨children, hc, h⟩ := h
    rw [bind_eq_ok] at h
    obtain ⟨content, hn, h⟩ := h
    obtain rfl := pure_eq_ok.mp h
    rw [hfield]
    refine
      { kind := ⟨hplace, ht⟩
        name := rfl
        element := ?_
        location := hl
        children := ?_
        content := forall₂_of_contentOf hplace hfield hn }
    · rintro _ _ _ ⟨⟩
      exact ⟨⟨attrs, rfl, ha⟩, hu⟩
    · rw [Place.children, Place.isParent, hplace]
      exact forall₂_of_childList hc

theorem describes_leaf {kind : Source.Kind} {nodeKind : Node.Kind}
    (hk : Source.kind? fields = some kind) (hl : leafKind? fields kind = some nodeKind) :
    Describes ⟨.obj fields, false⟩ nodeKind := by
  cases kind with
  | root => contradiction
  | element => contradiction
  | text =>
    cases hl
    exact ⟨hk, rfl⟩
  | comment =>
    cases hl
    exact ⟨hk, rfl⟩
  | doctype =>
    cases hl
    exact ⟨hk, rfl, rfl, rfl⟩

theorem isParent_leaf {kind : Source.Kind} {nodeKind : Node.Kind}
    (hk : Source.kind? fields = some kind) (hl : leafKind? fields kind = some nodeKind) :
    (⟨.obj fields, false⟩ : Place).isParent = false := by
  have hplace : (⟨.obj fields, false⟩ : Place).kind? = some kind := hk
  rw [Place.isParent, hplace]
  cases kind with
  | root => contradiction
  | element => contradiction
  | _ => rfl

/-- A source without children describes a node of its kind without anything below. -/
theorem step_of_leaf {kind : Source.Kind} {nodeKind : Node.Kind} {node : Node}
    (hk : Source.kind? fields = some kind) (hl : leafKind? fields kind = some nodeKind)
    (h : convert schema (.obj fields) = .ok node) : Step schema ⟨.obj fields, false⟩ node := by
  have hp := isParent_leaf hk hl
  rw [convert_leaf hk hl, bind_eq_ok] at h
  obtain ⟨location, hloc, h⟩ := h
  obtain rfl := pure_eq_ok.mp h
  refine
    { kind := describes_leaf hk hl
      name := rfl
      element := ?_
      location := hloc
      children := ?_
      content := ?_ }
  · -- No source without children is an element.
    rintro tag attrs uri he
    replace he : nodeKind = .element tag attrs uri := he
    subst he
    cases kind <;> cases hl
  · rw [Place.children, hp]
    exact .nil
  · rw [Place.isParent, Bool.or_eq_false_iff] at hp
    rw [Place.content, Place.isTemplate, hp.2]
    exact .nil

/-- A source node of any kind is converted with the schema for its place. -/
theorem step_of_convert {v : Value} {node : Node} (h : convert schema v = .ok node) :
    Step (schemaAt schema ⟨v, false⟩) ⟨v, false⟩ node := by
  by_cases hv : ∃ fields, v = .obj fields
  · obtain ⟨fields, rfl⟩ := hv
    have hplace : (⟨.obj fields, false⟩ : Place).kind? = Source.kind? fields := rfl
    cases hk : Source.kind? fields with
    | none =>
      rw [convert_of_no_kind hk] at h
      contradiction
    | some kind =>
      cases kind with
      | element =>
        rw [schemaAt_element (hplace.trans hk)]
        exact step_of_element hk h
      | root =>
        rw [schemaAt_of_ne_element (by rw [hplace, hk]; simp)]
        exact step_of_root hk h
      | _ =>
        rw [schemaAt_of_ne_element (by rw [hplace, hk]; simp)]
        exact step_of_leaf hk rfl h
  · rw [not_exists] at hv
    rw [convert_of_ne_obj hv] at h
    contradiction

/-- A successful conversion of a place is such a step. -/
theorem step_of_nodeAt {place : Place} {node : Node} (h : nodeAt schema place = .ok node) :
    Step (schemaAt schema place) place node := by
  obtain ⟨v, asFragment⟩ := place
  cases asFragment with
  | true =>
    have hk : (⟨v, true⟩ : Place).kind? ≠ some .element := by simp [Place.kind?]
    rw [schemaAt_of_ne_element hk]
    exact step_of_fragment h
  | false => exact step_of_convert h

theorem Step.parts {place : Place} {node : Node} (h : Step schema place node) :
    List.Forall₂ (fun part child => nodeAt schema part = .ok child) place.parts node.parts := by
  rw [Place.parts, Node.parts]
  exact List.rel_append h.children h.content

/-- A conversion starts at a single place. -/
theorem documentTree_eq (tree : Value) {space : Value} {schema : Schema}
    (h : Schema.ofSpace? space = .ok schema) (asFragment : Bool) :
    documentTree tree space asFragment = nodeAt schema (.start tree asFragment) := by
  have hroot : isRoot tree = (Source.kind? (Source.fieldsOf tree) == some .root) := by
    cases tree <;> rfl
  rw [documentTree, h, hroot]
  rfl

/-- A conversion that succeeds was done with the schema that its space names. -/
theorem exists_nodeAt_of_documentTree {tree space : Value} {asFragment : Bool} {node : Node}
    (h : documentTree tree space asFragment = .ok node) :
    ∃ schema, Schema.ofSpace? space = .ok schema ∧
      nodeAt schema (.start tree asFragment) = .ok node := by
  cases hs : Schema.ofSpace? space with
  | error e =>
    rw [documentTree, hs] at h
    contradiction
  | ok schema =>
    rw [documentTree_eq tree hs] at h
    exact ⟨schema, rfl, h⟩

end MarkupTree.Conversion
