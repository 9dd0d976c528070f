import Mathlib.Data.List.Forall2
import MarkupTree.Node.Data
import MarkupTree.Proofs.Attribute.Made
import MarkupTree.Proofs.Node.Walk
import MarkupTree.Proofs.Outcome
import MarkupTree.Proofs.Path
import MarkupTree.Proofs.Value.Parts

/-!
# The object of a node, taken apart

The object that shows a node starts with its name. Then come the fields of the node itself, the
objects of what is right below it, if its name does not tell that nothing is, and its location.

Results:

* `shows_of_toValue`: the object of a node is of this form.
* `every_toValue`: its keys are distinct, and those of every object inside it, if they are so in the
  data of the nodes.
-/

namespace MarkupTree.Node

open Outcome (bind_eq_ok pure_eq_ok)
open Value (Every HasDistinctKeys every_iff)

/-! ## Taking apart -/

/-- What the objects of the children and of the content of a node add to its object. -/
inductive ShowsBelow (children : List Node) : Option Node → List (String × Value) → Prop
  | plain {vs : List Value} (h : List.Forall₂ (fun node v => node.toValue = .ok v) children vs) :
    ShowsBelow children none [("childNodes", .arr vs)]
  | template {node : Node} {vs : List Value} {v : Value}
    (h : List.Forall₂ (fun node v => node.toValue = .ok v) children vs)
    (hv : node.toValue = .ok v) :
    ShowsBelow children (some node) [("childNodes", .arr vs), ("content", v)]

/-- A node and its object. -/
inductive Shows : Node → Value → Prop
  | leaf {label : Label} {children : List Node} {content : Option Node}
    {own : List (String × Value)} (h : leafFields label = some (.ok own)) :
    Shows (mk label children content) (withFields label own)
  | parent {label : Label} {children : List Node} {content : Option Node}
    {own below : List (String × Value)} (h : leafFields label = none)
    (ho : ownFields label = .ok own) (hk : label.kind.hasChildren = true)
    (hb : ShowsBelow children content below) :
    Shows (mk label children content) (withFields label (own ++ below))

theorem forall₂_of_toValues {nodes : List Node} {vs : List Value} (h : toValues nodes = .ok vs) :
    List.Forall₂ (fun node v => node.toValue = .ok v) nodes vs := by
  induction nodes generalizing vs with
  | nil =>
    obtain rfl := pure_eq_ok.mp h
    exact .nil
  | cons node rest ih =>
    rw [toValues, bind_eq_ok] at h
    obtain ⟨v, hv, h⟩ := h
    rw [bind_eq_ok] at h
    obtain ⟨others, ho, h⟩ := h
    obtain rfl := pure_eq_ok.mp h
    exact .cons hv (ih ho)

theorem showsBelow_of_eq_ok {children : List Node} {content : Option Node} {vs : List Value}
    {fields : List (String × Value)} (hs : toValues children = .ok vs)
    (hc : contentFields content = .ok fields) :
    ShowsBelow children content ([("childNodes", .arr vs)] ++ fields) := by
  cases content with
  | none =>
    obtain rfl := pure_eq_ok.mp hc
    exact .plain (forall₂_of_toValues hs)
  | some node =>
    rw [contentFields, bind_eq_ok] at hc
    obtain ⟨v, hv, hc⟩ := hc
    obtain rfl := pure_eq_ok.mp hc
    exact .template (forall₂_of_toValues hs) hv

/-- The object of a node is of the form that its name and its kind give. -/
theorem shows_of_toValue {node : Node} {data : Value} (h : node.toValue = .ok data) :
    Shows node data := by
  obtain ⟨label, children, content⟩ := node
  rw [toValue] at h
  cases hl : leafFields label with
  | some fields =>
    rw [hl] at h
    obtain ⟨own, rfl, h⟩ := bind_eq_ok.mp h
    obtain rfl := pure_eq_ok.mp h
    exact .leaf hl
  | none =>
    rw [hl] at h
    obtain ⟨own, ho, h⟩ := bind_eq_ok.mp h
    cases hk : label.kind.hasChildren with
    | false =>
      rw [hk] at h
      contradiction
    | true =>
      rw [hk] at h
      obtain ⟨vs, hs, h⟩ := bind_eq_ok.mp h
      obtain ⟨fields, hc, h⟩ := bind_eq_ok.mp h
      obtain rfl := pure_eq_ok.mp h
      rw [List.append_assoc]
      exact .parent hl ho hk (showsBelow_of_eq_ok hs hc)

/-! ## Own fields -/

/-- The fields of a node that its kind gives. -/
def Kind.fields : Kind → List (String × Value)
  | .document mode => [("mode", mode)]
  | .element tag attrs uri =>
    [("tagName", tag), ("attrs", .arr ((attrs.getD []).map Attribute.toValue)),
      ("namespaceURI", uri)]
  | .text value => [("value", value)]
  | .comment data => [("data", data)]
  | .doctype name publicId systemId =>
    [("name", name), ("publicId", publicId), ("systemId", systemId)]
  | .plain => []
  | .parent => []
  | .fragment => []

variable {label : Label} {own : List (String × Value)}

/-- A node that is shown without children has none, and is shown with the fields of its kind. -/
theorem leafFields_eq_ok (h : leafFields label = some (.ok own)) :
    own = label.kind.fields ∧ label.kind.hasChildren = false := by
  unfold leafFields at h
  split at h
  · split at h <;> cases h
    rename_i hk
    simp [hk, Kind.fields, Kind.hasChildren]
  split at h
  · split at h <;> cases h
    rename_i hk
    simp [hk, Kind.fields, Kind.hasChildren]
  split at h
  · split at h <;> cases h
    rename_i hk
    simp [hk, Kind.fields, Kind.hasChildren]
  · contradiction

/-- A node with children is shown with the fields of its kind, but under the name of a fragment it
is shown without. -/
theorem ownFields_eq_ok (h : ownFields label = .ok own) :
    own = label.kind.fields ∨ label.name = .str "#document-fragment" ∧ own = [] := by
  unfold ownFields at h
  split at h
  · split at h <;> cases h
    rename_i hk
    simp [hk, Kind.fields]
  split at h
  · rename_i hname
    cases h
    exact .inr ⟨Value.isText_iff.mp hname, rfl⟩
  · split at h <;> cases h
    rename_i hk
    simp [hk, Kind.fields]

/-! ## Distinct keys -/

/-- The data that a node holds for its kind. -/
def Kind.values : Kind → List Value
  | .document mode => [mode]
  | .element tag attrs uri => tag :: uri :: (attrs.getD []).flatMap Attribute.parts
  | .text value => [value]
  | .comment data => [data]
  | .doctype name publicId systemId => [name, publicId, systemId]
  | .plain => []
  | .parent => []
  | .fragment => []

/-- All the data that a node holds. -/
def Label.values (label : Label) : List Value :=
  label.name :: label.kind.values ++ (label.location.map Location.parts).getD []

theorem every_attribute {a : Attribute} (h : ∀ v ∈ a.parts, v.Every HasDistinctKeys) :
    a.toValue.Every HasDistinctKeys := by
  simp only [Attribute.parts, List.forall_mem_cons] at h
  obtain ⟨hname, hvalue, hqualifier, huri, -⟩ := h
  rw [Attribute.toValue]
  split
  · rw [Value.every_distinct_obj]
    simp [hname, hvalue, hqualifier, huri]
  · rw [Value.every_distinct_obj]
    simp [hname, hvalue]

theorem every_location {location : Location} (h : ∀ v ∈ location.parts, v.Every HasDistinctKeys) :
    location.toValue.Every HasDistinctKeys := by
  simp only [Location.parts, List.forall_mem_cons] at h
  obtain ⟨h₁, h₂, h₃, h₄, h₅, h₆, -⟩ := h
  rw [Location.toValue, Value.every_distinct_obj]
  simp [h₁, h₂, h₃, h₄, h₅, h₆]

theorem every_attributes {attrs : List Attribute}
    (h : ∀ v ∈ attrs.flatMap Attribute.parts, v.Every HasDistinctKeys) :
    (Value.arr (attrs.map Attribute.toValue)).Every HasDistinctKeys := by
  rw [Value.every_distinct_arr]
  intro item hitem
  obtain ⟨a, ha, rfl⟩ := List.mem_map.mp hitem
  exact every_attribute fun v hv => h v (List.mem_flatMap.mpr ⟨a, ha, hv⟩)

theorem every_fields {kind : Kind} (h : ∀ v ∈ kind.values, v.Every HasDistinctKeys) :
    ∀ field ∈ kind.fields, field.2.Every HasDistinctKeys := by
  cases kind with
  | element tag attrs uri =>
    simp only [Kind.values, List.forall_mem_cons] at h
    obtain ⟨htag, huri, hattrs⟩ := h
    have hlist := every_attributes hattrs
    simp [Kind.fields, htag, huri, hlist]
  | document mode => simpa [Kind.fields, Kind.values] using h
  | text value => simpa [Kind.fields, Kind.values] using h
  | comment data => simpa [Kind.fields, Kind.values] using h
  | doctype name publicId systemId => simpa [Kind.fields, Kind.values] using h
  | _ => exact List.forall_mem_nil _

/-- The keys of the fields that a node may have for its kind. -/
def ownKeys : List (List String) :=
  [["value"], ["data"], ["name", "publicId", "systemId"], ["mode"], [],
   ["tagName", "attrs", "namespaceURI"]]

/-- The keys of the fields that a node may have for what is below it. -/
def belowKeys : List (List String) := [[], ["childNodes"], ["childNodes", "content"]]

/-- No key stands twice in the object of a node, whatever its kind and what is below it. -/
theorem nodup_keys : ∀ own ∈ ownKeys, ∀ below ∈ belowKeys,
    ∀ location ∈ [[], ["sourceCodeLocation"]],
      ("nodeName" :: (own ++ below) ++ location).Nodup := by
  decide

theorem keys_fields (kind : Kind) : Fields.keys kind.fields ∈ ownKeys := by
  cases kind <;> simp [Kind.fields, ownKeys]

theorem keys_showsBelow {children : List Node} {content : Option Node}
    {below : List (String × Value)} (h : ShowsBelow children content below) :
    Fields.keys below ∈ belowKeys := by
  cases h <;> simp [belowKeys]

theorem every_withFields {below : List (String × Value)} (hkeys : Fields.keys own ∈ ownKeys)
    (hb : Fields.keys below ∈ belowKeys) (hl : ∀ v ∈ label.values, v.Every HasDistinctKeys)
    (hown : ∀ field ∈ own, field.2.Every HasDistinctKeys)
    (hbelow : ∀ field ∈ below, field.2.Every HasDistinctKeys) :
    (withFields label (own ++ below)).Every HasDistinctKeys := by
  rw [Label.values, List.cons_append, List.forall_mem_cons, List.forall_mem_append] at hl
  obtain ⟨hname, -, hloc⟩ := hl
  have hnodup := nodup_keys _ hkeys _ hb
  rw [withFields, Value.every_distinct_obj]
  cases hlocation : label.location with
  | none =>
    have h := hnodup [] (by simp)
    constructor
    · simpa [Fields.keys, locationFields] using h
    · rw [List.cons_append, List.forall_mem_cons, List.forall_mem_append, List.forall_mem_append]
      exact ⟨hname, ⟨hown, hbelow⟩, List.forall_mem_nil _⟩
  | some location =>
    have h := hnodup ["sourceCodeLocation"] (by simp)
    rw [hlocation] at hloc
    constructor
    · simpa [Fields.keys, locationFields] using h
    · rw [List.cons_append, List.forall_mem_cons, List.forall_mem_append, List.forall_mem_append]
      refine ⟨hname, ⟨hown, hbelow⟩, ?_⟩
      rw [locationFields, List.forall_mem_singleton]
      exact every_location hloc

/-- What is below a node has distinct keys if all of its objects have. -/
theorem every_showsBelow {children : List Node} {content : Option Node}
    {below : List (String × Value)} (h : ShowsBelow children content below)
    (hc : ∀ part ∈ children ++ content.toList, ∀ v, part.toValue = .ok v →
      v.Every HasDistinctKeys) :
    ∀ field ∈ below, field.2.Every HasDistinctKeys := by
  have hlist : ∀ {vs : List Value},
      List.Forall₂ (fun node v => node.toValue = .ok v) children vs →
        (Value.arr vs).Every HasDistinctKeys := by
    intro vs hvs
    rw [Value.every_distinct_arr]
    intro v hv
    obtain ⟨node, hnode, hn⟩ := exists_of_forall₂_right hvs hv
    exact hc node (List.mem_append_left _ hnode) v hn
  cases h with
  | plain h => simp [hlist h]
  | template h hv =>
    have hcontent := hc _ (List.mem_append_right _ (by simp)) _ hv
    simp [hlist h, hcontent]

/-- If the keys in all the data of the nodes of a tree are distinct, so are those in its object. -/
theorem every_toValue {node : Node} {data : Value}
    (h : ∀ n ∈ node.preorder, ∀ v ∈ n.label.values, v.Every HasDistinctKeys)
    (hv : node.toValue = .ok data) : data.Every HasDistinctKeys := by
  induction node using Node.induction generalizing data with
  | mk label children content ihchildren ihcontent =>
    rw [preorder_eq, List.forall_mem_cons] at h
    obtain ⟨hlabel, hbelow⟩ := h
    have hkind : ∀ v ∈ label.kind.values, v.Every HasDistinctKeys := fun v hv =>
      hlabel v (List.mem_cons_of_mem _ (List.mem_append_left _ hv))
    have hpart : ∀ part ∈ children ++ content.toList, ∀ v, part.toValue = .ok v →
        v.Every HasDistinctKeys := by
      intro part hpart v hv
      have hnodes : ∀ n ∈ part.preorder, ∀ v ∈ n.label.values, v.Every HasDistinctKeys :=
        fun n hn => hbelow n (List.mem_flatMap.mpr ⟨part, hpart, hn⟩)
      rcases List.mem_append.mp hpart with hp | hp
      · exact ihchildren part hp hnodes hv
      · exact ihcontent part (Option.mem_toList.mp hp) hnodes hv
    cases shows_of_toValue hv with
    | @leaf _ _ _ own hown =>
      obtain ⟨rfl, -⟩ := leafFields_eq_ok hown
      have hdata := every_withFields  (keys_fields label.kind) (by simp [belowKeys])
        hlabel (every_fields hkind) (List.forall_mem_nil _)
      rwa [List.append_nil] at hdata
    | parent _ hown _ hb =>
      have hfields := every_showsBelow hb hpart
      rcases ownFields_eq_ok hown with rfl | ⟨-, rfl⟩
      · exact every_withFields (keys_fields label.kind) (keys_showsBelow hb) hlabel
          (every_fields hkind) hfields
      · exact every_withFields (by simp [ownKeys]) (keys_showsBelow hb) hlabel
          (List.forall_mem_nil _) hfields

end MarkupTree.Node
