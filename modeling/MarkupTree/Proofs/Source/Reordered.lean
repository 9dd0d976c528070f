import Mathlib.Data.List.Forall2
import MarkupTree.Proofs.Source.Defects
import MarkupTree.Proofs.Source.Fields

/-!
# Source trees with reordered properties

Two source trees may differ in the order of the properties of their elements, at any depth. Nothing
else that is read from them depends on this order, neither what stands at their places nor what is
wrong with them.

Results:

* `lookup_of_reordered`: the other fields are the same.
* `Place.Reordered.children`, `Place.Reordered.content`: what is below is reordered in turn.
* `Place.Reordered.defects`: the two trees have the same defects.
-/

namespace MarkupTree.Source

/-! ## Trees -/

/-- Whether two fields are the same up to the order of properties, if this is so of the values below
that `R` relates. -/
inductive ReorderedField (R : Value → Value → Prop) : String × Value → String × Value → Prop
  | same (field : String × Value) : ReorderedField R field field
  | properties {key : String} {ps ps' : List (String × Value)} (hkey : key = "properties")
    (h : ps.Perm ps') : ReorderedField R (key, .obj ps) (key, .obj ps')
  | children {key : String} {items items' : List Value} (hkey : key = "children")
    (h : List.Forall₂ R items items') : ReorderedField R (key, .arr items) (key, .arr items')
  | content {key : String} {v v' : Value} (hkey : key = "content") (h : R v v') :
    ReorderedField R (key, v) (key, v')

/-- Whether two source trees are the same up to the order of the properties in each node. -/
inductive Reordered : Value → Value → Prop
  | same (v : Value) : Reordered v v
  | node {fields fields' : List (String × Value)}
    (h : List.Forall₂ (ReorderedField Reordered) fields fields') :
    Reordered (.obj fields) (.obj fields')

/-! ## Fields -/

section Fields

variable {fields fields' : List (String × Value)}

theorem ReorderedField.key_eq {R : Value → Value → Prop} {p p' : String × Value}
    (h : ReorderedField R p p') : p.1 = p'.1 := by
  cases h <;> rfl

/-- Under each key the two nodes have corresponding fields, or neither has a field. -/
theorem lookup_cases (h : List.Forall₂ (ReorderedField Reordered) fields fields') (key : String) :
    fields'.lookup key = fields.lookup key ∨
      ∃ v v', fields.lookup key = some v ∧ fields'.lookup key = some v' ∧
        ReorderedField Reordered (key, v) (key, v') := by
  induction h with
  | nil => exact .inl rfl
  | @cons p p' rest rest' hp _ ih =>
    obtain ⟨k, v⟩ := p
    obtain ⟨k', v'⟩ := p'
    obtain rfl : k = k' := hp.key_eq
    rw [List.lookup_cons, List.lookup_cons]
    cases hkey : key == k with
    | false => exact ih
    | true =>
      obtain rfl := beq_iff_eq.mp hkey
      exact .inr ⟨v, v', rfl, rfl, hp⟩

theorem reorderedField_field (h : List.Forall₂ (ReorderedField Reordered) fields fields')
    (key : String) :
    ReorderedField Reordered (key, field fields key) (key, field fields' key) := by
  rw [field, field]
  rcases lookup_cases h key with he | ⟨v, v', hv, hv', hfield⟩
  · rw [he]
    exact .same _
  · rw [hv, hv']
    exact hfield

/-- A field that holds neither properties nor what is below is the same. -/
theorem lookup_of_reordered (h : List.Forall₂ (ReorderedField Reordered) fields fields')
    {key : String} (hproperties : key ≠ "properties") (hchildren : key ≠ "children")
    (hcontent : key ≠ "content") :
    fields'.lookup key = fields.lookup key := by
  rcases lookup_cases h key with he | ⟨v, v', hv, hv', hfield⟩
  · exact he
  · rw [hv, hv']
    cases hfield with
    | same => rfl
    | properties hkey => exact absurd hkey hproperties
    | children hkey => exact absurd hkey hchildren
    | content hkey => exact absurd hkey hcontent

/-- The properties are the same, or in another order. -/
theorem properties_cases (h : List.Forall₂ (ReorderedField Reordered) fields fields') :
    field fields' "properties" = field fields "properties" ∨
      ∃ ps ps', field fields "properties" = .obj ps ∧ field fields' "properties" = .obj ps' ∧
        ps.Perm ps' := by
  have hfield := reorderedField_field h "properties"
  generalize field fields "properties" = v at hfield
  generalize field fields' "properties" = v' at hfield
  cases hfield with
  | same => exact .inl rfl
  | properties _ hperm => exact .inr ⟨_, _, rfl, rfl, hperm⟩
  | children hkey => exact absurd hkey (by decide)
  | content hkey => exact absurd hkey (by decide)

theorem children_cases (h : List.Forall₂ (ReorderedField Reordered) fields fields') :
    field fields' "children" = field fields "children" ∨
      ∃ items items', field fields "children" = .arr items ∧
        field fields' "children" = .arr items' ∧ List.Forall₂ Reordered items items' := by
  have hfield := reorderedField_field h "children"
  generalize field fields "children" = v at hfield
  generalize field fields' "children" = v' at hfield
  cases hfield with
  | same => exact .inl rfl
  | properties hkey => exact absurd hkey (by decide)
  | children _ hitems => exact .inr ⟨_, _, rfl, rfl, hitems⟩
  | content hkey => exact absurd hkey (by decide)

theorem reordered_content (h : List.Forall₂ (ReorderedField Reordered) fields fields') :
    Reordered (field fields "content") (field fields' "content") := by
  have hfield := reorderedField_field h "content"
  generalize field fields "content" = v at hfield
  generalize field fields' "content" = v' at hfield
  cases hfield with
  | same => exact .same _
  | properties hkey => exact absurd hkey (by decide)
  | children hkey => exact absurd hkey (by decide)
  | content _ hcontent => exact hcontent

end Fields

/-! ## Values -/

namespace Reordered

variable {v v' : Value}

theorem fieldsOf (h : Reordered v v') :
    List.Forall₂ (ReorderedField Reordered) (fieldsOf v) (fieldsOf v') := by
  cases h with
  | same => exact List.forall₂_same.mpr fun field _ => .same field
  | node hfields => exact hfields

theorem truthy (h : Reordered v v') : v'.truthy = v.truthy := by
  cases h with
  | same => rfl
  | node hfields => cases hfields <;> rfl

theorem isObject (h : Reordered v v') : isObject v' = isObject v := by
  cases h <;> rfl

theorem orEmpty (h : Reordered v v') : Reordered (orEmpty v) (orEmpty v') := by
  rw [Source.orEmpty, Source.orEmpty, h.truthy]
  cases v.truthy with
  | true => exact h
  | false => exact .same _

theorem memberDefects (h : Reordered v v') : memberDefects v' = memberDefects v := by
  rw [Source.memberDefects, Source.memberDefects, h.truthy, h.isObject]

end Reordered

/-! ## Places -/

/-- Whether two places are the same up to the order of properties in them. -/
structure Place.Reordered (place place' : Place) : Prop where
  asFragment : place'.asFragment = place.asFragment
  value : Source.Reordered place.value place'.value

namespace Place.Reordered

variable {place place' : Place}

theorem fields (h : Reordered place place') :
    List.Forall₂ (ReorderedField Source.Reordered) place.fields place'.fields :=
  h.value.fieldsOf

theorem lookup (h : Reordered place place') {key : String} (hproperties : key ≠ "properties")
    (hchildren : key ≠ "children") (hcontent : key ≠ "content") :
    place'.fields.lookup key = place.fields.lookup key :=
  lookup_of_reordered h.fields hproperties hchildren hcontent

theorem sourceKind? (h : Reordered place place') :
    Source.kind? place'.fields = Source.kind? place.fields :=
  kind?_congr (h.lookup (by decide) (by decide) (by decide))

theorem kind? (h : Reordered place place') : place'.kind? = place.kind? := by
  rw [Place.kind?, Place.kind?, h.asFragment, h.sourceKind?]

theorem tag (h : Reordered place place') :
    field place'.fields "tagName" = field place.fields "tagName" :=
  field_congr (h.lookup (by decide) (by decide) (by decide))

theorem location (h : Reordered place place') :
    Source.location place'.fields = Source.location place.fields :=
  location_congr (h.lookup (by decide) (by decide) (by decide))

theorem payload (h : Reordered place place') :
    Source.payload place'.fields = Source.payload place.fields :=
  payload_congr (h.lookup (by decide) (by decide) (by decide))

theorem data (h : Reordered place place') :
    field place'.fields "data" = field place.fields "data" :=
  field_congr (h.lookup (by decide) (by decide) (by decide))

/-! ### What is below -/

theorem children (h : Reordered place place') :
    List.Forall₂ Reordered place.children place'.children := by
  rw [Place.children, Place.children, isParent, isParent, h.asFragment, h.kind?]
  split
  · rw [List.forall₂_map_left_iff, List.forall₂_map_right_iff]
    rcases children_cases h.fields with he | ⟨items, items', hi, hi', hitems⟩
    · rw [he]
      exact List.forall₂_same.mpr fun v _ => ⟨rfl, .same v⟩
    · rw [hi, hi']
      exact hitems.imp fun _ _ hv => ⟨rfl, hv⟩
  · exact .nil

theorem content (h : Reordered place place') :
    List.Forall₂ Reordered place.content.toList place'.content.toList := by
  rw [Place.content, Place.content, isTemplate, isTemplate, h.kind?, h.tag]
  split
  · exact .cons ⟨rfl, (reordered_content h.fields).orEmpty⟩ .nil
  · exact .nil

theorem parts (h : Reordered place place') :
    List.Forall₂ Reordered place.parts place'.parts :=
  List.rel_append h.children h.content

/-! ### Defects -/

theorem listDefects (h : Reordered place place') :
    listDefects (field place'.fields "children") = listDefects (field place.fields "children") := by
  rcases children_cases h.fields with he | ⟨items, items', hi, hi', hitems⟩
  · rw [he]
  · rw [hi, hi', Source.listDefects, Source.listDefects]
    cases hitems <;> rfl

theorem propertiesDefects (h : Reordered place place') :
    memberDefects (field place'.fields "properties") =
      memberDefects (field place.fields "properties") := by
  rcases properties_cases h.fields with he | ⟨ps, ps', hp, hp', -⟩
  · rw [he]
  · rw [hp, hp', memberDefects_obj, memberDefects_obj]

theorem positionDefects (h : Reordered place place') :
    positionDefects place'.fields = positionDefects place.fields := by
  have hposition : field place'.fields "position" = field place.fields "position" :=
    field_congr (h.lookup (by decide) (by decide) (by decide))
  rw [Source.positionDefects, Source.positionDefects, hposition]

theorem tagDefects (h : Reordered place place') :
    tagDefects place'.fields = tagDefects place.fields := by
  rw [Source.tagDefects, Source.tagDefects, h.lookup (by decide) (by decide) (by decide)]

theorem type (h : Reordered place place') :
    field place'.fields "type" = field place.fields "type" :=
  field_congr (h.lookup (by decide) (by decide) (by decide))

/-- Trees that are the same up to the order of properties have the same defects. -/
theorem defects (h : Reordered place place') : place'.defects = place.defects := by
  induction place using Place.induction generalizing place' with
  | step place ih =>
    have hparts : ∀ {xs xs' : List Place}, (∀ part ∈ xs, part ∈ place.parts) →
        List.Forall₂ Reordered xs xs' → xs'.flatMap Place.defects = xs.flatMap Place.defects := by
      intro xs xs' hmem hxs
      induction hxs with
      | nil => rfl
      | cons hx _ ihxs =>
        rw [List.forall_mem_cons] at hmem
        rw [List.flatMap_cons, List.flatMap_cons, ih _ hmem.1 hx, ihxs hmem.2]
    rw [Place.defects_eq, Place.defects_eq, h.listDefects,
      hparts (fun _ => List.mem_append_left _) h.children,
      hparts (fun _ => List.mem_append_right _) h.content]
    simp only [defectsWith, h.asFragment, h.sourceKind?, h.positionDefects, h.value.memberDefects,
      h.data, h.tagDefects, h.propertiesDefects, h.type]

end Place.Reordered

/-- Trees that are the same up to the order of properties are entered alike. -/
theorem reordered_start {tree tree' : Value} (h : Reordered tree tree') (asFragment : Bool) :
    (Place.start tree asFragment).Reordered (Place.start tree' asFragment) where
  asFragment := by
    have hkind : kind? (fieldsOf tree') = kind? (fieldsOf tree) :=
      kind?_congr (lookup_of_reordered h.fieldsOf (by decide) (by decide) (by decide))
    rw [Place.start, Place.start, hkind]
  value := h

end MarkupTree.Source
