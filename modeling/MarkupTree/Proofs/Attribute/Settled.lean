import MarkupTree.Proofs.Attribute.Pipeline

/-!
# Settled attributes

The first pass renames properties to attributes. Its result is settled: when the attributes are
taken for properties themselves, the pass makes the same of them again. So it does not matter
whether properties go by their own names or by those of their attributes.

Results:

* `ofProperty?_value`: a value that the pass has made is kept as it is.
* `entries_pairs`: the entries that were made are made again, with the same names and values.
* `pairs_named`: properties that go by the names of their attributes make the same pairs.
* `resolve_idempotent`: the pass settles all properties, in both spaces.
-/

namespace MarkupTree.Attribute

open Command (Space)

namespace Entry

/-- A value that was made of a property is kept when it is read as that of a property again. -/
theorem ofProperty?_value {info : Schema.Info} {v : Value} {entry : Entry}
    (h : ofProperty? info v = some entry) (info' : Schema.Info) :
    ofProperty? info' entry.value = some ⟨info', entry.value⟩ := by
  rw [ofProperty?_eq] at h
  split at h
  · contradiction
  · rename_i hpresent
    obtain rfl := Option.some.inj h
    rw [ofProperty?_eq]
    cases v with
    | arr items => rfl
    | _ => exact if_neg hpresent

/-- What is made of a property depends on what is known of its attribute alone. -/
theorem pair_ofProperty? {info info' : Schema.Info} (h : info'.Alike info) (v : Value) :
    (ofProperty? info' v).map pair = (ofProperty? info v).map pair := by
  have hjoined : joinedValue info' v = joinedValue info v := by
    cases v with
    | arr items => rw [joinedValue, joinedValue, joinItems, joinItems, h.has]
    | _ => rfl
  rw [ofProperty?_eq, ofProperty?_eq, hjoined]
  cases isAbsent v with
  | true => rfl
  | false => exact congrArg (fun name => some (name, joinedValue info v)) h.attributeName

end Entry

/-! ## Both passes of names -/

variable (space : Space)

/-- An entry as it is made again of its own name and value. -/
def again (entry : Entry) : Entry := ⟨space.info entry.name, entry.value⟩

/-- A property by the name of its attribute. -/
def named (property : String × Value) : String × Value :=
  ((space.info property.1).attributeName, property.2)

variable {space}

theorem pair_again {entry : Entry} {property : String} (h : entry.info = space.info property) :
    (again space entry).pair = entry.pair := by
  have hname : (space.info entry.name).attributeName = entry.name := by
    rw [Entry.name, h, (space.info_attributeName property).attributeName]
  rw [again, Entry.pair, Entry.name, hname, Entry.pair]

/-- Entries of properties are made again of their names and values. -/
theorem entries_pairs {properties : List (String × Value)} {es : List Entry}
    (h : ∀ entry ∈ es, entry ∈ entries space.info properties) :
    entries space.info (es.map Entry.pair) = es.map (again space) := by
  rw [entries, List.filterMap_map, ← List.filterMap_eq_map]
  apply List.filterMap_congr
  intro entry he
  obtain ⟨property, -, hproperty⟩ := List.mem_filterMap.mp (h entry he)
  exact Entry.ofProperty?_value hproperty _

/-- What the pass makes of entries that it has made, it makes again. -/
theorem resolve_pairs {properties : List (String × Value)} {es : List Entry}
    (h : ∀ entry ∈ es, entry ∈ entries space.info properties) (hnodup : (es.map Entry.name).Nodup) :
    resolve space.schema (.obj (es.map Entry.pair)) = .ok (es.map Entry.pair) := by
  have hpairs : (es.map (again space)).map Entry.pair = es.map Entry.pair := by
    rw [List.map_map]
    refine List.map_congr_left fun entry he => ?_
    obtain ⟨property, -, hinfo⟩ := info_of_mem_entries (h entry he)
    exact pair_again hinfo
  rw [resolve_obj space.find_eq_info, ← ofPairs_entries, entries_pairs h, hpairs,
    Fields.ofPairs_eq_self (by rwa [keys_pairs])]

/-- Properties that go by the names of their attributes make the same pairs. -/
theorem pairs_named (properties : List (String × Value)) :
    (entries space.info (properties.map (named space))).map Entry.pair =
      (entries space.info properties).map Entry.pair := by
  rw [entries, entries, List.map_filterMap, List.map_filterMap, List.filterMap_map]
  refine List.filterMap_congr fun property _ => ?_
  exact Entry.pair_ofProperty? (space.info_attributeName property.1) property.2

theorem resolve_named (properties : List (String × Value)) :
    resolve space.schema (.obj (properties.map (named space))) =
      resolve space.schema (.obj properties) := by
  rw [resolve_obj space.find_eq_info, resolve_obj space.find_eq_info, ← ofPairs_entries,
    ← ofPairs_entries, pairs_named]

/-- The first pass settles any properties: it never fails, and makes of its own result the same
result, with the same names in the same order and the same values. So an element has the same
attributes for the attributes that were made of its properties, and for the properties each under
the name of its attribute, as for the properties themselves. -/
theorem resolve_idempotent (space : Space) (properties : List (String × Value)) :
    ∃ attributes, resolve space.schema (.obj properties) = .ok attributes ∧
      resolve space.schema (.obj attributes) = .ok attributes ∧
      ofProperties space.schema (.obj attributes) = ofProperties space.schema (.obj properties) ∧
      ofProperties space.schema (.obj (properties.map (named space))) =
        ofProperties space.schema (.obj properties) := by
  have hresolve := resolve_obj space.find_eq_info properties
  have hagain := resolve_pairs (fun _ => mem_of_mem_lastWrites)
    (nodup_lastWrites (entries space.info properties))
  refine ⟨_, hresolve, hagain, ?_, ?_⟩
  · rw [ofProperties, ofProperties, hagain, hresolve]
  · rw [ofProperties, ofProperties, resolve_named]

end MarkupTree.Attribute
