import MarkupTree.Proofs.Source.Fields

/-!
# The relevant part of a source tree

Which fields of a source node matter depends on its type, and on its tag if it is an element. All
other fields can be left out of a tree, whatever they hold.

Results:

* `lookup_stripFields`: under a key that matters, a stripped object holds what is kept of the field.
* `mem_relevantKeys`, `children_mem_relevantKeys`, `content_mem_relevantKeys`: which keys matter.
* `kind?_strip`, `location_stripFields`: readings that a stripped node agrees on.
-/

namespace MarkupTree.Source

/-- The keys of the fields that matter in every source node of a kind. -/
def Kind.keys : Kind → List String
  | root => ["type", "data", "children", "position"]
  | element => ["type", "tagName", "properties", "position", "children"]
  | text => ["type", "value", "position"]
  | comment => ["type", "value", "position"]
  | doctype => ["type", "position"]

/-- The keys of the fields that matter in a source node with these fields. Of an object that is no
source node only the type matters, and only a template has a content. -/
def relevantKeys (fields : List (String × Value)) : List String :=
  match kind? fields with
  | none => ["type"]
  | some .element =>
    Kind.element.keys ++ if (field fields "tagName").isText "template" then ["content"] else []
  | some kind => kind.keys

/-- The keys of the fields that matter in an object that is read as a fragment. -/
def fragmentKeys : List String := ["children", "position"]

mutual

/-- A source tree with only the fields that matter. -/
def strip : Value → Value
  | .obj fields => .obj (stripFields (relevantKeys fields) fields)
  | v => v

/-- A content with only the fields that matter. -/
def stripContent : Value → Value
  | .obj fields => .obj (stripFields fragmentKeys fields)
  | v => v

/-- Fields without those that have other keys. What matters of a list of children or of a content is
less than the whole. -/
def stripFields (keys : List String) : List (String × Value) → List (String × Value)
  | [] => []
  | (key, v) :: rest =>
    if key ∉ keys then stripFields keys rest
    else if key = "children" then (key, stripChildren v) :: stripFields keys rest
    else if key = "content" then (key, stripContent v) :: stripFields keys rest
    else (key, v) :: stripFields keys rest

/-- A list of children, each with only the fields that matter. -/
def stripChildren : Value → Value
  | .arr items => .arr (stripAll items)
  | v => v

/-- Source trees, each with only the fields that matter. -/
def stripAll : List Value → List Value
  | [] => []
  | v :: rest => strip v :: stripAll rest

end

variable {keys : List String} {fields : List (String × Value)}

theorem strip_of_ne_obj {v : Value} (h : ∀ fields, v ≠ .obj fields) : strip v = v := by
  cases v with
  | obj fields => exact absurd rfl (h fields)
  | _ => rfl

theorem stripContent_of_ne_obj {v : Value} (h : ∀ fields, v ≠ .obj fields) : stripContent v = v := by
  cases v with
  | obj fields => exact absurd rfl (h fields)
  | _ => rfl

/-! ## Fields that are kept -/

/-- What is kept of a field. -/
def stripField (key : String) (v : Value) : Value :=
  if key = "children" then stripChildren v else if key = "content" then stripContent v else v

theorem stripFields_cons_of_mem {key : String} (h : key ∈ keys) (v : Value)
    (rest : List (String × Value)) :
    stripFields keys ((key, v) :: rest) = (key, stripField key v) :: stripFields keys rest := by
  rw [stripFields, if_neg (not_not_intro h), stripField]
  split
  · rfl
  · split <;> rfl

/-- Under a key that matters the same field is found, with what is kept of it. -/
theorem lookup_stripFields {key : String} (h : key ∈ keys) (fields : List (String × Value)) :
    (stripFields keys fields).lookup key = (fields.lookup key).map (stripField key) := by
  induction fields with
  | nil => rfl
  | cons pair rest ih =>
    obtain ⟨key', v⟩ := pair
    by_cases hkey : key' ∈ keys
    · rw [stripFields_cons_of_mem hkey, List.lookup_cons, List.lookup_cons]
      cases he : key == key' with
      | true =>
        obtain rfl := beq_iff_eq.mp he
        rfl
      | false => exact ih
    · have hne : (key == key') = false := beq_eq_false_iff_ne.mpr fun e => hkey (e ▸ h)
      rw [stripFields, if_pos hkey, ih, List.lookup_cons, hne]

/-- Apart from the children and the content, a field that matters is kept as it is. -/
theorem lookup_stripFields_of_ne {key : String} (h : key ∈ keys) (hchildren : key ≠ "children")
    (hcontent : key ≠ "content") (fields : List (String × Value)) :
    (stripFields keys fields).lookup key = fields.lookup key := by
  have hkept : stripField key = id := by
    funext v
    rw [stripField, if_neg hchildren, if_neg hcontent]
    rfl
  rw [lookup_stripFields h, hkept, Option.map_id, id]

theorem field_stripFields_children (h : "children" ∈ keys) (fields : List (String × Value)) :
    field (stripFields keys fields) "children" = stripChildren (field fields "children") := by
  rw [field, field, lookup_stripFields h]
  cases fields.lookup "children" <;> rfl

theorem field_stripFields_content (h : "content" ∈ keys) (fields : List (String × Value)) :
    field (stripFields keys fields) "content" = stripContent (field fields "content") := by
  rw [field, field, lookup_stripFields h]
  cases fields.lookup "content" <;> rfl

/-! ## Readings of a stripped node -/

theorem Kind.position_mem_keys (kind : Kind) : "position" ∈ kind.keys := by
  cases kind <;> decide

theorem mem_relevantKeys {kind : Kind} {key : String} (hk : kind? fields = some kind)
    (h : key ∈ kind.keys) : key ∈ relevantKeys fields := by
  rw [relevantKeys, hk]
  cases kind with
  | element => exact List.mem_append_left _ h
  | _ => exact h

theorem type_mem_relevantKeys (fields : List (String × Value)) : "type" ∈ relevantKeys fields := by
  cases hk : kind? fields with
  | none =>
    rw [relevantKeys, hk]
    exact List.mem_cons_self
  | some kind => exact mem_relevantKeys hk (by cases kind <;> exact List.mem_cons_self)

theorem children_mem_relevantKeys (h : (⟨.obj fields, false⟩ : Place).isParent = true) :
    "children" ∈ relevantKeys fields := by
  have hplace : (⟨.obj fields, false⟩ : Place).kind? = kind? fields := rfl
  rw [Place.isParent, hplace, Bool.false_or, Bool.or_eq_true, beq_iff_eq, beq_iff_eq] at h
  rcases h with hk | hk
  · exact mem_relevantKeys hk (by decide)
  · exact mem_relevantKeys hk (by decide)

theorem content_mem_relevantKeys (h : (⟨.obj fields, false⟩ : Place).isTemplate = true) :
    "content" ∈ relevantKeys fields := by
  have hplace : (⟨.obj fields, false⟩ : Place).kind? = kind? fields := rfl
  rw [Place.isTemplate, hplace, Bool.and_eq_true, beq_iff_eq] at h
  rw [Place.fields, fieldsOf_obj] at h
  rw [relevantKeys, h.1, if_pos h.2]
  exact List.mem_append_right _ List.mem_cons_self

theorem field_type_strip (fields : List (String × Value)) :
    field (stripFields (relevantKeys fields) fields) "type" = field fields "type" :=
  field_congr (lookup_stripFields_of_ne (type_mem_relevantKeys fields) (by decide) (by decide) fields)

theorem kind?_strip (fields : List (String × Value)) :
    kind? (stripFields (relevantKeys fields) fields) = kind? fields := by
  rw [kind?, kind?, field_type_strip]

theorem location_stripFields (h : "position" ∈ keys) (fields : List (String × Value)) :
    location (stripFields keys fields) = location fields :=
  location_congr (lookup_stripFields_of_ne h (by decide) (by decide) fields)

end MarkupTree.Source
