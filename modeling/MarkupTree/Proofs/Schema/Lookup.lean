import MarkupTree.Proofs.Schema.Stability

/-!
# Exact look-ups

The infos in the tables of a space are found under their own two names, in any letter case, and
under no others.

Results:

* `answersTo_info`: whatever is found for a name answers to it.
* `info_eq_iff`: an info of a table is found under its names only.
* `find_eq_ok_iff`: look-ups are exact, and no table hides an entry.
* `find_again`: a look-up of the attribute name that was found finds the same attribute.
-/

namespace MarkupTree.Command.Space

open Schema

variable {space : Space} {name : String}

/-! ## Names in tables and other names -/

theorem info_of_not_mem (h : Text.lower name ∉ Fields.keys space.schema.aliases) :
    space.info name = unknown name :=
  info_eq_of_find (find_unknown (Fields.lookup_eq_none.mpr h))

/-- A name that is known to the schema is that of an info of the tables. -/
theorem info_of_mem (h : Text.lower name ∈ Fields.keys space.schema.aliases) :
    space.info name ∈ space.infos ∧ (space.info name).answersTo (Text.lower name) = true := by
  obtain ⟨-, -, info, hi, -, ha, -⟩ := space.builtFrom.exists_find_of_mem_keys h
  rw [info_eq_of_find (find_of_mem hi ha)]
  exact ⟨hi, ha⟩

/-- One of the two names of an unknown name is the name itself. -/
theorem answersTo_unknown (name : String) :
    (unknown name).answersTo (Text.lower name) = true := by
  rw [Info.answersTo_iff, unknown, DataName.info?]
  split
  · exact Or.inl rfl
  · exact Or.inr rfl
  · exact Or.inl rfl

/-- Whatever is found for a name answers to it. -/
theorem answersTo_info (space : Space) (name : String) :
    (space.info name).answersTo (Text.lower name) = true := by
  by_cases h : Text.lower name ∈ Fields.keys space.schema.aliases
  · exact (info_of_mem h).2
  · rw [info_of_not_mem h]
    exact answersTo_unknown name

/-- An info of a table is found under its names only. -/
theorem info_eq_iff {info : Info} (hi : info ∈ space.infos) :
    space.info name = info ↔ info.answersTo (Text.lower name) = true := by
  constructor
  · rintro rfl
    exact space.answersTo_info name
  · intro ha
    exact info_eq_of_find (find_of_mem hi ha)

theorem find_eq_ok {info : Info} : space.schema.find name = .ok info ↔ space.info name = info := by
  rw [find_eq_info, Except.ok.injEq]

theorem mem_schema_infos {key : String} {info : Info} :
    (key, info) ∈ space.schema.infos ↔ info ∈ space.infos ∧ key = info.propertyName :=
  space.builtFrom.mem_infos_iff space.unambiguous

/-! ## Look-ups -/

/-- In both spaces, an entry of the schema is found for a name if and only if the name is that of
its property or of its attribute, up to letter case. No info of a table is lost when the tables are
written one after another: the schema holds it, and both its names lead to it. A name that is none
of all these is a data name or plain, and has no traits and no namespace. -/
theorem find_eq_ok_iff (space : Space) :
    (∀ entry ∈ space.schema.infos, ∀ name, space.schema.find name = .ok entry.2 ↔
        Text.lower name = Text.lower entry.2.propertyName ∨
          Text.lower name = Text.lower entry.2.attributeName) ∧
      (∀ info ∈ space.infos, (info.propertyName, info) ∈ space.schema.infos ∧
        space.schema.aliases.lookup (Text.lower info.propertyName) = some info.propertyName ∧
          space.schema.aliases.lookup (Text.lower info.attributeName) = some info.propertyName) ∧
      ∀ name, (∀ entry ∈ space.schema.infos, Text.lower name ≠ Text.lower entry.2.propertyName ∧
          Text.lower name ≠ Text.lower entry.2.attributeName) →
        ∃ info, space.schema.find name = .ok info ∧
          (DataName.info? name = some info ∨ info = .plain name) ∧
            info.space = none ∧ ∀ trait, info.has trait = false := by
  refine ⟨?_, ?_, ?_⟩
  · rintro ⟨key, info⟩ he name
    rw [find_eq_ok, info_eq_iff (mem_schema_infos.mp he).1, Info.answersTo_iff]
  · intro info hi
    have hb := space.builtFrom
    have hu := space.unambiguous
    exact ⟨mem_schema_infos.mpr ⟨hi, rfl⟩, hb.lookup_aliases_of_mem hu hi info.answersTo_property,
      hb.lookup_aliases_of_mem hu hi info.answersTo_attribute⟩
  · intro name hn
    have hinfo : space.info name = unknown name := by
      rcases space.info_cases name with hi | hi
      · obtain ⟨hp, ha⟩ := hn _ (mem_schema_infos.mpr ⟨hi, rfl⟩)
        rcases Info.answersTo_iff.mp (space.answersTo_info name) with h | h
        · exact absurd h hp
        · exact absurd h ha
      · exact hi
    refine ⟨unknown name, find_eq_ok.mpr hinfo, unknown_cases name, space_unknown name, ?_⟩
    intro trait
    rw [Info.has, traits_unknown]
    rfl

/-- A look-up never fails, and a second look-up of the attribute name that it found finds the same
attribute. The property name is the same, too, if the name is known to the schema or no rule gives
its attribute. -/
theorem find_again (space : Space) (name : String) :
    ∃ info again, space.schema.find name = .ok info ∧
      space.schema.find info.attributeName = .ok again ∧
      again.attributeName = info.attributeName ∧ again.space = info.space ∧
      again.defined = info.defined ∧ (∀ trait, again.has trait = info.has trait) ∧
      (Text.lower name ∈ Fields.keys space.schema.aliases ∨ info.defined = false →
        again = info) := by
  obtain ⟨property, h⟩ := space.exists_info_attributeName name
  refine ⟨space.info name, space.info (space.info name).attributeName, space.find_eq_info _,
    space.find_eq_info _, ?_, ?_, ?_, ?_, ?_⟩
  · rw [h]
  · rw [h]
  · rw [h]
  · intro trait
    rw [h]
    rfl
  · intro hk
    by_cases hmem : Text.lower name ∈ Fields.keys space.schema.aliases
    · exact info_attributeName_of_mem (info_of_mem hmem).1
    · have hd := hk.resolve_left hmem
      have hplain : space.info name = .plain name := by
        rw [info_of_not_mem hmem] at hd ⊢
        rcases unknown_cases name with hn | hn
        · rw [(DataName.info?_defined hn).1] at hd
          contradiction
        · exact hn
      have hname : (space.info name).attributeName = name := by
        rw [hplain]
        rfl
      rw [hname]

end MarkupTree.Command.Space
