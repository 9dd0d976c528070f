import MarkupTree.Proofs.Schema.Building

/-!
# Schemas merged from any tables

A schema holds the infos of its properties, and apart from them the names that lead to the
properties. When schemas are merged, both are overwritten, each on its own, so a name may come to
lead to a property that another table has redefined. It always leads to a property that the schema
holds, whatever the tables are. If no property stands in two of them, it is even one of the two
names of what is found.

Results:

* `builtFrom_ofDefinitions`: the infos that a schema of any definitions is built from.
* `attributeName_eq_of_propertyName_eq`: infos of one property have one attribute name, if no
  property stands in two tables.
* `find_ofDefinitions`: what look-ups in such a schema find.
-/

namespace MarkupTree.Schema

/-- A table of properties, with what makes attribute names of them and the space that they are
in. -/
structure Definition where
  properties : List (String × List Trait)
  transform : String → String
  space : Option String

namespace Definition

/-- The schema of a single definition. -/
def schema (d : Definition) : Schema := define d.properties d.transform d.space

/-- The infos of a single definition. -/
def infos (d : Definition) : List Info := tableInfos d.properties d.transform d.space

theorem exists_of_mem_infos {d : Definition} {info : Info} (h : info ∈ d.infos) :
    info.propertyName ∈ Fields.keys d.properties ∧
      info.attributeName = d.transform info.propertyName := by
  obtain ⟨entry, he, rfl⟩ := List.mem_map.mp h
  exact ⟨List.mem_map_of_mem he, rfl⟩

end Definition

/-- The schema that holds what all the definitions hold. -/
def ofDefinitions (definitions : List Definition) (space : String) : Schema :=
  merge (definitions.map Definition.schema) space

/-- Whether no property stands in the tables of two definitions. -/
def HaveOwnProperties (definitions : List Definition) : Prop :=
  ∀ d ∈ definitions, ∀ d' ∈ definitions, ∀ property ∈ Fields.keys d.properties,
    property ∈ Fields.keys d'.properties → d = d'

theorem builtFrom_ofDefinitions (definitions : List Definition) (space : String) :
    (ofDefinitions definitions space).BuiltFrom (definitions.flatMap Definition.infos) := by
  have h := BuiltFrom.merge (definitions.map fun d => (d.schema, d.infos)) ?_ space
  · rw [List.map_map, List.flatMap_map] at h
    exact h
  · intro entry he
    obtain ⟨d, -, rfl⟩ := List.mem_map.mp he
    exact .define _ _ _

/-- Infos of one property have one attribute name, if no property stands in two tables. -/
theorem attributeName_eq_of_propertyName_eq {definitions : List Definition}
    (hown : HaveOwnProperties definitions) {i j : Info}
    (hi : i ∈ definitions.flatMap Definition.infos) (hj : j ∈ definitions.flatMap Definition.infos)
    (h : i.propertyName = j.propertyName) : i.attributeName = j.attributeName := by
  obtain ⟨d, hd, hid⟩ := List.mem_flatMap.mp hi
  obtain ⟨d', hd', hjd⟩ := List.mem_flatMap.mp hj
  obtain ⟨hp, ha⟩ := Definition.exists_of_mem_infos hid
  obtain ⟨hp', ha'⟩ := Definition.exists_of_mem_infos hjd
  rw [← h] at hp'
  obtain rfl := hown d hd d' hd' _ hp hp'
  rw [ha, ha', h]

/-- In a schema that is merged from any tables, with any rules for attribute names and any spaces,
every name leads to a property that the schema holds, every info stands under its own property, and
so no look-up fails. If moreover no property stands in two of the tables, the info that is found for
a name that the schema knows has it for its property or for its attribute, up to letter case. -/
theorem find_ofDefinitions (definitions : List Definition) (space : String) :
    (∀ entry ∈ (ofDefinitions definitions space).aliases,
      entry.2 ∈ Fields.keys (ofDefinitions definitions space).infos) ∧
    (∀ entry ∈ (ofDefinitions definitions space).infos, entry.2.propertyName = entry.1) ∧
    (∀ name, ∃ info, (ofDefinitions definitions space).find name = .ok info) ∧
    (HaveOwnProperties definitions → ∀ name,
      Text.lower name ∈ Fields.keys (ofDefinitions definitions space).aliases →
      ∃ info, (ofDefinitions definitions space).find name = .ok info ∧
        (Text.lower name = Text.lower info.propertyName ∨
          Text.lower name = Text.lower info.attributeName)) := by
  have hb := builtFrom_ofDefinitions definitions space
  refine ⟨?_, ?_, ?_, ?_⟩
  · rintro ⟨name, key⟩ he
    exact hb.mem_keys_of_mem_aliases he
  · rintro ⟨key, info⟩ he
    exact (hb.mem_of_mem_infos he).2.symm
  · intro name
    rcases hb.find_cases name with ⟨info, -, h⟩ | h
    · exact ⟨info, h⟩
    · exact ⟨unknown name, h⟩
  · intro hown name hn
    obtain ⟨found, hfound, named, hnamed, hfind, ha, hp⟩ := hb.exists_find_of_mem_keys hn
    have hattribute := attributeName_eq_of_propertyName_eq hown hnamed hfound hp
    refine ⟨found, hfind, ?_⟩
    rw [← hp, ← hattribute]
    exact Info.answersTo_iff.mp ha

/-- Two tables, the second of which gives a property the attribute name that is in the first one
for another property. -/
def overlapping : List Definition :=
  [⟨[("title", [])], id, none⟩, ⟨[("caption", [.boolean])], fun _ => "Title", some "svg"⟩]

theorem find_ofDefinitions_overlapping :
    HaveOwnProperties overlapping ∧
      Text.lower "TITLE" ∈ Fields.keys (ofDefinitions overlapping "svg").aliases ∧
      ∃ info, (ofDefinitions overlapping "svg").find "TITLE" = .ok info ∧
        (Text.lower "TITLE" = Text.lower info.propertyName ∨
          Text.lower "TITLE" = Text.lower info.attributeName) := by
  have hown : HaveOwnProperties overlapping := by
    simp [HaveOwnProperties, overlapping]
  have hname : Text.lower "TITLE" ∈ Fields.keys (ofDefinitions overlapping "svg").aliases := by
    decide
  exact ⟨hown, hname, (find_ofDefinitions overlapping "svg").2.2.2 hown "TITLE" hname⟩

/-- A name may lead to an info that it is no name of, if a property stands in two tables. -/
example : (ofDefinitions [⟨[("a", [])], fun _ => "b", none⟩, ⟨[("a", [])], fun _ => "c", none⟩]
    "html").find "b" = .ok { propertyName := "a", attributeName := "c", defined := true } := rfl

end MarkupTree.Schema
