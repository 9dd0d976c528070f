import MarkupTree.Proofs.Attribute.Pipeline
import MarkupTree.Proofs.Value.Parts

/-!
# Attributes that a conversion makes

Every attribute of a converted element is that of a property. Its data are texts, and it has a
qualifier if and only if it is in a namespace.

Results:

* `exists_entries_of_ofProperties`: which attributes there can be, whatever the properties are.
* `every_parts_toAttribute`: their data hold no objects.
-/

namespace MarkupTree.Attribute

/-- The four parts of an attribute. -/
def parts (a : Attribute) : List Value := [a.name, a.value, a.qualifier, a.namespaceURI]

/-- The object of an attribute tells whether it is in a namespace. -/
theorem isForeign_congr {a b : Attribute} (h : a.toValue = b.toValue) :
    a.isForeign = b.isForeign := by
  rw [toValue, toValue] at h
  cases ha : a.isForeign <;> cases hb : b.isForeign <;> simp [ha, hb] at h ⊢

theorem ofProperties_of_ne_obj {schema : Schema} {v : Value} {attrs : List Attribute}
    (hv : ∀ fields, v ≠ .obj fields) (h : ofProperties schema v = .ok attrs) : attrs = [] := by
  rw [ofProperties, Outcome.bind_eq_ok] at h
  obtain ⟨pairs, hr, h⟩ := h
  unfold resolve at hr
  split at hr
  · split at hr
    · exact absurd rfl (hv _)
    · contradiction
  · obtain rfl := Except.ok.inj hr
    exact (Except.ok.inj h).symm

/-- The attributes of an element are those of entries with different names, of each of which only
what is known of some property name and the value of the property is known. -/
theorem exists_entries_of_ofProperties {space : Command.Space} {properties : Value}
    {attrs : List Attribute} (h : ofProperties space.schema properties = .ok attrs) :
    ∃ es : List Entry, attrs = es.map Entry.toAttribute ∧ (es.map Entry.name).Nodup ∧
      ∀ entry ∈ es, ∃ name, entry.info = space.info name := by
  by_cases hv : ∃ fields, properties = .obj fields
  · obtain ⟨fields, rfl⟩ := hv
    rw [ofProperties_obj] at h
    refine ⟨_, (Except.ok.inj h).symm, ?_, fun entry he => ?_⟩
    · exact (nodup_lastWrites _).sublist (List.filter_sublist.map _)
    · obtain ⟨property, -, hinfo⟩ :=
        info_of_mem_entries (mem_of_mem_lastWrites (List.mem_filter.mp he).1)
      exact ⟨property.1, hinfo⟩
  · rw [not_exists] at hv
    exact ⟨[], ofProperties_of_ne_obj hv h, List.nodup_nil, List.forall_mem_nil _⟩

/-- An attribute of an element is that of an entry of this kind. -/
theorem exists_entry_of_mem {space : Command.Space} {properties : Value} {attrs : List Attribute}
    (h : ofProperties space.schema properties = .ok attrs) {a : Attribute} (ha : a ∈ attrs) :
    ∃ entry : Entry, (∃ name, entry.info = space.info name) ∧ a = entry.toAttribute := by
  obtain ⟨es, rfl, -, hinfo⟩ := exists_entries_of_ofProperties h
  obtain ⟨entry, he, rfl⟩ := List.mem_map.mp ha
  exact ⟨entry, hinfo entry he, rfl⟩

theorem toAttribute_cases (entry : Entry) :
    (entry.foreignURI? = none ∧
      entry.toAttribute = { name := .str entry.name, value := .str entry.text }) ∨
    ∃ uri, entry.foreignURI? = some uri ∧
      entry.toAttribute =
        { name := .str (Entry.splitName entry.name).2, value := .str entry.text,
          qualifier := .str (Entry.splitName entry.name).1, namespaceURI := .str uri } := by
  rw [Entry.toAttribute]
  cases entry.foreignURI? with
  | none => exact .inl ⟨rfl, rfl⟩
  | some uri => exact .inr ⟨uri, rfl, rfl⟩

theorem every_parts_toAttribute (entry : Entry) :
    ∀ v ∈ entry.toAttribute.parts, v.Every Value.HasDistinctKeys := by
  rcases toAttribute_cases entry with ⟨-, h⟩ | ⟨uri, -, h⟩
  · rw [h]
    simp [parts]
  · rw [h]
    simp [parts]

end MarkupTree.Attribute
