import MarkupTree.Proofs.Fields
import MarkupTree.Source

/-!
# Walking a source tree

A walk through a source tree reaches a node, then its children, then, if it is a template, its
content, which is read as a fragment whatever its type says. What a walk reaches is called a place.
Nothing here depends on how a source tree is converted.

Results:

* `sizeOf_lt_of_mem_parts`: what is below a place is smaller.
* `induction`: a property of places follows from the same property of the places below.
* `walk_eq`: a walk is the place, followed by the walks through what is below it.
-/

namespace MarkupTree.Source

/-- A place in a source tree: a value, and whether it is read as a fragment. -/
structure Place where
  value : Value
  asFragment : Bool

/-- The fields of an object. Other values have none. -/
def fieldsOf : Value → List (String × Value)
  | .obj fields => fields
  | _ => []

@[simp] theorem fieldsOf_obj (fields : List (String × Value)) : fieldsOf (.obj fields) = fields :=
  rfl

theorem fieldsOf_of_ne_obj {v : Value} (h : ∀ fields, v ≠ .obj fields) : fieldsOf v = [] := by
  cases v with
  | obj fields => exact absurd rfl (h fields)
  | _ => rfl

/-- The items of a list. Other values have none. -/
def itemsOf : Value → List Value
  | .arr items => items
  | _ => []

theorem itemsOf_of_ne_arr {v : Value} (h : ∀ items, v ≠ .arr items) : itemsOf v = [] := by
  cases v with
  | arr items => exact absurd rfl (h items)
  | _ => rfl

/-- A falsy value stands for an object without fields. -/
def orEmpty (v : Value) : Value := if v.truthy then v else .obj []

/-- Whether the data of a source node with these fields asks for quirks. -/
def isQuirks (fields : List (String × Value)) : Bool :=
  (field (fieldsOf (field fields "data")) "quirksMode").truthy

namespace Place

/-- The fields of the object at a place. -/
def fields (place : Place) : List (String × Value) := fieldsOf place.value

/-- What the type of the object says, unless it is read as a fragment. -/
def kind? (place : Place) : Option Kind :=
  if place.asFragment then none else Source.kind? place.fields

/-- Whether a place can have children. -/
def isParent (place : Place) : Bool :=
  place.asFragment || place.kind? == some .root || place.kind? == some .element

/-- Whether a place is an element with a content. -/
def isTemplate (place : Place) : Bool :=
  place.kind? == some .element && (field place.fields "tagName").isText "template"

/-- The children of a place. -/
def children (place : Place) : List Place :=
  if place.isParent then (itemsOf (field place.fields "children")).map (⟨·, false⟩) else []

/-- The content of a template. -/
def content (place : Place) : Option Place :=
  if place.isTemplate then some ⟨orEmpty (field place.fields "content"), true⟩ else none

/-- The place at which a tree is entered; a root is read as a fragment if `asFragment` is set. -/
def start (tree : Value) (asFragment : Bool) : Place :=
  ⟨tree, asFragment && Source.kind? (fieldsOf tree) == some .root⟩

/-- What is right below a place, in order. -/
def parts (place : Place) : List Place := place.children ++ place.content.toList

/-! ## Size -/

theorem sizeOf_field_lt (fields : List (String × Value)) (key : String) :
    sizeOf (field fields key) < sizeOf (Value.obj fields) := by
  rw [field, Value.obj.sizeOf_spec]
  cases h : fields.lookup key with
  | none =>
    have hpos : 0 < sizeOf fields := by
      cases fields with
      | nil => exact Nat.one_pos
      | cons pair rest =>
        rw [List.cons.sizeOf_spec]
        omega
    rw [Option.getD_none, Value.null.sizeOf_spec]
    omega
  | some v =>
    have hm := List.sizeOf_lt_of_mem (Fields.mem_of_lookup_eq_some h)
    rw [Prod.mk.sizeOf_spec] at hm
    rw [Option.getD_some]
    omega

theorem value_eq_obj {place : Place} (h : place.fields ≠ []) : place.value = .obj place.fields := by
  rw [fields] at h ⊢
  cases hv : place.value with
  | obj fields => rfl
  | _ =>
    rw [hv] at h
    exact absurd rfl h

theorem fields_ne_nil_of_kind? {place : Place} {kind : Kind} (h : place.kind? = some kind) :
    place.fields ≠ [] := by
  intro hf
  rw [kind?, hf] at h
  split at h <;> contradiction

theorem sizeOf_lt_of_mem_children {place child : Place} (h : child ∈ place.children) :
    sizeOf child.value < sizeOf place.value := by
  rw [children] at h
  split at h
  · obtain ⟨v, hv, rfl⟩ := List.mem_map.mp h
    cases hc : field place.fields "children" with
    | arr items =>
      rw [hc] at hv
      have hne : place.fields ≠ [] := by
        intro hf
        rw [hf] at hc
        contradiction
      have hv' := List.sizeOf_lt_of_mem hv
      have hf := sizeOf_field_lt place.fields "children"
      rw [hc, Value.arr.sizeOf_spec] at hf
      rw [itemsOf] at hv'
      rw [value_eq_obj hne]
      show sizeOf v < _
      omega
    | _ =>
      rw [hc] at hv
      exact absurd hv List.not_mem_nil
  · exact absurd h List.not_mem_nil

theorem sizeOf_lt_of_mem_content {place content : Place} (h : place.content = some content) :
    sizeOf content.value < sizeOf place.value := by
  rw [Place.content] at h
  split at h
  · rename_i ht
    obtain rfl := Option.some.inj h
    rw [isTemplate, Bool.and_eq_true, beq_iff_eq] at ht
    have hne := fields_ne_nil_of_kind? ht.1
    rw [value_eq_obj hne]
    show sizeOf (orEmpty _) < _
    rw [orEmpty]
    split
    · exact sizeOf_field_lt _ _
    · obtain ⟨⟨key, v⟩, rest, hf⟩ := List.exists_cons_of_ne_nil hne
      rw [hf, Value.obj.sizeOf_spec, Value.obj.sizeOf_spec, List.nil.sizeOf_spec,
        List.cons.sizeOf_spec, Prod.mk.sizeOf_spec]
      omega
  · contradiction

theorem sizeOf_lt_of_mem_parts {place part : Place} (h : part ∈ place.parts) :
    sizeOf part.value < sizeOf place.value := by
  rcases List.mem_append.mp h with h | h
  · exact sizeOf_lt_of_mem_children h
  · exact sizeOf_lt_of_mem_content (Option.mem_toList.mp h)

/-- A property of all places, proved for a place from what is right below it. -/
theorem induction {motive : Place → Prop}
    (step : ∀ place, (∀ part ∈ place.parts, motive part) → motive place) (place : Place) :
    motive place :=
  step place fun part h =>
    have := sizeOf_lt_of_mem_parts h
    induction step part
termination_by sizeOf place.value

/-! ## Walks -/

/-- The places that a walk reaches, in order. -/
def walk (place : Place) : List Place :=
  place :: place.parts.attach.flatMap fun part => walk part.1
termination_by sizeOf place.value
decreasing_by exact sizeOf_lt_of_mem_parts part.2

theorem walk_eq (place : Place) : place.walk = place :: place.parts.flatMap walk := by
  rw [walk, List.flatMap_subtype (g := walk) (fun _ _ => rfl), List.unattach_attach]

end Place

end MarkupTree.Source
