import MarkupTree.Proofs.Source.Walk

/-!
# What the readings of a source node depend on

The type, the mode, the location and the text of a source node are read from the fields of these
names alone.

Results:

* `kind?_congr`, `mode_congr`, `location_congr`, `payload_congr`: sources that agree on a field
  agree on what is read from it.
* `sameNode_set_children`, `sameNode_set_content`: other children or another content leave all other
  fields as they are.
-/

namespace MarkupTree.Source

variable {fields fields' : List (String × Value)}

theorem field_congr {key : String} (h : fields'.lookup key = fields.lookup key) :
    field fields' key = field fields key := by
  rw [field, field, h]

theorem kind?_congr (h : fields'.lookup "type" = fields.lookup "type") :
    kind? fields' = kind? fields := by
  rw [kind?, kind?, field_congr h]

theorem mode_congr (h : fields'.lookup "data" = fields.lookup "data") :
    mode fields' = mode fields := by
  rw [mode, mode, field_congr h]

theorem location_congr (h : fields'.lookup "position" = fields.lookup "position") :
    location fields' = location fields := by
  rw [location, location, field_congr h]

theorem payload_congr (h : fields'.lookup "value" = fields.lookup "value") :
    payload fields' = payload fields := by
  rw [payload, payload, h]

theorem field_set_self (key : String) (v : Value) : field (Fields.set key v fields) key = v := by
  rw [field, Fields.lookup_set_self, Option.getD_some]

/-- Whether two sources agree on all fields but the children and the content. -/
def SameNode (fields fields' : List (String × Value)) : Prop :=
  ∀ key, key ≠ "children" → key ≠ "content" → fields'.lookup key = fields.lookup key

theorem SameNode.kind? (h : SameNode fields fields') : Source.kind? fields' = Source.kind? fields :=
  kind?_congr (h "type" (by decide) (by decide))

theorem SameNode.location (h : SameNode fields fields') :
    Source.location fields' = Source.location fields :=
  location_congr (h "position" (by decide) (by decide))

theorem SameNode.isParent (h : SameNode fields fields') (asFragment : Bool) :
    (⟨.obj fields', asFragment⟩ : Place).isParent = (⟨.obj fields, asFragment⟩ : Place).isParent := by
  rw [Place.isParent, Place.isParent, Place.kind?, Place.kind?, Place.fields, Place.fields,
    fieldsOf_obj, fieldsOf_obj, h.kind?]

theorem SameNode.isTemplate (h : SameNode fields fields') (asFragment : Bool) :
    (⟨.obj fields', asFragment⟩ : Place).isTemplate =
      (⟨.obj fields, asFragment⟩ : Place).isTemplate := by
  have htag : field fields' "tagName" = field fields "tagName" :=
    field_congr (h "tagName" (by decide) (by decide))
  rw [Place.isTemplate, Place.isTemplate, Place.kind?, Place.kind?, Place.fields, Place.fields,
    fieldsOf_obj, fieldsOf_obj, h.kind?, htag]

theorem sameNode_set_children (fields : List (String × Value)) (v : Value) :
    SameNode fields (Fields.set "children" v fields) :=
  fun _ h _ => Fields.lookup_set_of_ne h v fields

theorem truthy_obj_set (key : String) (v : Value) :
    (Value.obj (Fields.set key v fields)).truthy = true := by
  rw [Value.truthy]
  cases h : Fields.set key v fields with
  | nil =>
    have hset := Fields.lookup_set_self key v fields
    rw [h] at hset
    contradiction
  | cons => rfl

theorem sameNode_set_content (fields : List (String × Value)) (v : Value) :
    SameNode fields (Fields.set "content" v fields) :=
  fun _ _ h => Fields.lookup_set_of_ne h v fields

end MarkupTree.Source
