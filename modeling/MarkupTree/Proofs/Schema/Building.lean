import MarkupTree.Proofs.Fields
import MarkupTree.Proofs.Lists
import MarkupTree.Schema.Basic

/-!
# What a schema knows

A schema is built by writing infos one after another, each under its property name and under the
lower forms of its two names, and by merging schemas. What it knows is therefore given by the list
of these infos, in which later ones hide earlier ones.

Results:

* `BuiltFrom.define`, `BuiltFrom.merge`: the infos that tables and merged schemas are built from.
* `BuiltFrom.find_cases`: a look-up never fails; it gives one of the infos, or what is known of a
  name that none of them answers to.
* `BuiltFrom.find_of_mem`: if no two infos answer to one name, each is found under both its names.
* `BuiltFrom.mem_infos_iff`: the schema then holds all of them.
* `BuiltFrom.mem_keys_of_mem_aliases`: a name never leads to a property that the schema lacks.
-/

namespace MarkupTree.Schema

/-- Whether one of the two names of an info has this lower form. -/
def Info.answersTo (info : Info) (name : String) : Bool :=
  name == Text.lower info.propertyName || name == Text.lower info.attributeName

/-- The infos that a table of properties stands for. -/
def tableInfos (properties : List (String × List Trait)) (transform : String → String)
    (space : Option String) : List Info :=
  properties.map fun entry =>
    { propertyName := entry.1, attributeName := transform entry.1, traits := entry.2, space,
      defined := true }

/-- No name is that of two infos. -/
def Unambiguous (infos : List Info) : Prop :=
  ∀ i ∈ infos, ∀ j ∈ infos, ∀ name, i.answersTo name = true → j.answersTo name = true → i = j

/-- What a schema knows if these infos were written into it in this order. -/
structure BuiltFrom (schema : Schema) (infos : List Info) : Prop where
  nodup_infos : (Fields.keys schema.infos).Nodup
  nodup_aliases : (Fields.keys schema.aliases).Nodup
  lookup_infos : ∀ key, schema.infos.lookup key = infos.reverse.find? (·.propertyName == key)
  lookup_aliases : ∀ name,
    schema.aliases.lookup name = (infos.reverse.find? (·.answersTo name)).map (·.propertyName)

theorem Info.answersTo_iff {info : Info} {name : String} :
    info.answersTo name = true ↔
      name = Text.lower info.propertyName ∨ name = Text.lower info.attributeName := by
  simp [answersTo]

theorem Info.answersTo_property (info : Info) :
    info.answersTo (Text.lower info.propertyName) = true := by
  simp [answersTo]

theorem Info.answersTo_attribute (info : Info) :
    info.answersTo (Text.lower info.attributeName) = true := by
  simp [answersTo]

theorem find?_reverse_concat {α : Type} (p : α → Bool) (xs : List α) (x : α) :
    (xs ++ [x]).reverse.find? p = if p x then some x else xs.reverse.find? p := by
  rw [List.reverse_append, List.reverse_singleton, List.singleton_append, List.find?_cons]
  cases p x <;> rfl

namespace BuiltFrom

variable {schema other : Schema} {infos others : List Info}

/-! ## Building -/

theorem empty (space : String) : BuiltFrom ⟨[], [], space⟩ [] where
  nodup_infos := List.nodup_nil
  nodup_aliases := List.nodup_nil
  lookup_infos _ := rfl
  lookup_aliases _ := rfl

theorem insert (h : schema.BuiltFrom infos) (info : Info) :
    (schema.insert info).BuiltFrom (infos ++ [info]) where
  nodup_infos := Fields.nodup_keys_set h.nodup_infos _ _
  nodup_aliases := Fields.nodup_keys_set (Fields.nodup_keys_set h.nodup_aliases _ _) _ _
  lookup_infos key := by
    rw [find?_reverse_concat, ← h.lookup_infos, Schema.insert, Fields.lookup_set]
    by_cases hk : key = info.propertyName
    · simp [hk]
    · simp [hk, Ne.symm hk]
  lookup_aliases name := by
    rw [find?_reverse_concat, apply_ite (Option.map _), ← h.lookup_aliases, Schema.insert,
      Fields.lookup_set, Fields.lookup_set]
    by_cases ha : name = Text.lower info.attributeName
    · simp [ha, Info.answersTo]
    · by_cases hp : name = Text.lower info.propertyName
      · simp [hp, Info.answersTo]
      · simp [ha, hp, Info.answersTo]

theorem foldl_insert (h : schema.BuiltFrom infos) (added : List Info) :
    (added.foldl Schema.insert schema).BuiltFrom (infos ++ added) := by
  induction added generalizing schema infos with
  | nil => simpa using h
  | cons info rest ih =>
    rw [List.append_cons]
    exact ih (h.insert info)

/-- A table is written info by info. -/
theorem define (properties : List (String × List Trait)) (transform : String → String)
    (space : Option String) :
    (Schema.define properties transform space).BuiltFrom (tableInfos properties transform space) := by
  have h := (empty (space.getD "")).foldl_insert (tableInfos properties transform space)
  rw [tableInfos, List.foldl_map] at h
  exact h

theorem update (h : schema.BuiltFrom infos) (h' : other.BuiltFrom others) :
    BuiltFrom
      { schema with
        infos := Fields.update schema.infos other.infos
        aliases := Fields.update schema.aliases other.aliases }
      (infos ++ others) where
  nodup_infos := Fields.nodup_keys_update h.nodup_infos _
  nodup_aliases := Fields.nodup_keys_update h.nodup_aliases _
  lookup_infos key := by
    rw [Fields.lookup_update h'.nodup_infos, h.lookup_infos, h'.lookup_infos, List.reverse_append,
      List.find?_append]
  lookup_aliases name := by
    rw [Fields.lookup_update h'.nodup_aliases, h.lookup_aliases, h'.lookup_aliases,
      List.reverse_append, List.find?_append, Option.map_or]

/-- Merged schemas are written one after another. -/
theorem merge (definitions : List (Schema × List Info))
    (h : ∀ d ∈ definitions, d.1.BuiltFrom d.2) (space : String) :
    (Schema.merge (definitions.map Prod.fst) space).BuiltFrom (definitions.flatMap Prod.snd) := by
  suffices hs : ∀ (schema : Schema) (infos : List Info), schema.BuiltFrom infos →
      ((definitions.map Prod.fst).foldl (fun merged definition =>
        { merged with
          infos := Fields.update merged.infos definition.infos
          aliases := Fields.update merged.aliases definition.aliases }) schema).BuiltFrom
        (infos ++ definitions.flatMap Prod.snd) from hs _ [] (empty space)
  induction definitions with
  | nil =>
    intro schema infos hb
    simpa using hb
  | cons d rest ih =>
    intro schema infos hb
    rw [List.map_cons, List.foldl_cons, List.flatMap_cons, ← List.append_assoc]
    exact ih (fun e he => h e (List.mem_cons_of_mem _ he)) _ _
      (hb.update (h d List.mem_cons_self))

/-! ## Looking up -/

/-- The property name under which an alias stands is that of an info that is known. -/
theorem exists_lookup_infos (h : schema.BuiltFrom infos) {info : Info} (hi : info ∈ infos) :
    ∃ i ∈ infos, schema.infos.lookup info.propertyName = some i ∧
      i.propertyName = info.propertyName := by
  have hsome : (infos.reverse.find? (·.propertyName == info.propertyName)).isSome := by
    rw [List.find?_isSome]
    exact ⟨info, List.mem_reverse.mpr hi, beq_self_eq_true _⟩
  obtain ⟨i, hf⟩ := Option.isSome_iff_exists.mp hsome
  refine ⟨i, List.mem_reverse.mp (List.mem_of_find?_eq_some hf), ?_, ?_⟩
  · rw [h.lookup_infos, hf]
  · have := List.find?_some hf
    exact eq_of_beq this

theorem find_of_not_answersTo (h : schema.BuiltFrom infos) {name : String}
    (hn : ∀ info ∈ infos, info.answersTo (Text.lower name) = false) :
    schema.find name = .ok (unknown name) := by
  apply find_unknown
  rw [h.lookup_aliases, List.find?_eq_none.mpr, Option.map_none]
  intro info hi
  rw [hn info (List.mem_reverse.mp hi)]
  exact Bool.false_ne_true

/-- A look-up gives one of the infos if one answers to the name, and otherwise what is known of a
name in no table. -/
theorem find_cases (h : schema.BuiltFrom infos) (name : String) :
    (∃ info ∈ infos, schema.find name = .ok info) ∨ schema.find name = .ok (unknown name) := by
  by_cases hn : ∀ info ∈ infos, info.answersTo (Text.lower name) = false
  · exact Or.inr (h.find_of_not_answersTo hn)
  · have ha := h.lookup_aliases (Text.lower name)
    cases hf : infos.reverse.find? (·.answersTo (Text.lower name)) with
    | none =>
      rw [hf] at ha
      exact Or.inr (find_unknown ha)
    | some info =>
      rw [hf] at ha
      have hi : info ∈ infos := List.mem_reverse.mp (List.mem_of_find?_eq_some hf)
      obtain ⟨i, hmem, hl, -⟩ := h.exists_lookup_infos hi
      exact Or.inl ⟨i, hmem, find_of_lookup ha hl⟩

/-- If no two infos answer to one name, both names of each lead to its property. -/
theorem lookup_aliases_of_mem (h : schema.BuiltFrom infos) (hu : Unambiguous infos) {info : Info}
    (hi : info ∈ infos) {name : String} (ha : info.answersTo name = true) :
    schema.aliases.lookup name = some info.propertyName := by
  rw [h.lookup_aliases, Lists.find?_eq_some_of_unique (List.mem_reverse.mpr hi) ha, Option.map_some]
  intro i hmem hp
  exact hu i (List.mem_reverse.mp hmem) info hi _ hp ha

/-- If no two infos answer to one name, each is kept under its property. -/
theorem lookup_infos_of_mem (h : schema.BuiltFrom infos) (hu : Unambiguous infos) {info : Info}
    (hi : info ∈ infos) : schema.infos.lookup info.propertyName = some info := by
  obtain ⟨i, hmem, hl, hp⟩ := h.exists_lookup_infos hi
  have hl' : info.answersTo (Text.lower i.propertyName) = true := by
    rw [hp]
    exact info.answersTo_property
  rw [hl, hu i hmem info hi _ i.answersTo_property hl']

/-- If no two infos answer to one name, each is found under both of its names. -/
theorem find_of_mem (h : schema.BuiltFrom infos) (hu : Unambiguous infos) {info : Info}
    (hi : info ∈ infos) {name : String} (ha : info.answersTo (Text.lower name) = true) :
    schema.find name = .ok info :=
  find_of_lookup (h.lookup_aliases_of_mem hu hi ha) (h.lookup_infos_of_mem hu hi)

/-- What a schema holds under a property is an info of this property. -/
theorem mem_of_mem_infos (h : schema.BuiltFrom infos) {key : String} {info : Info}
    (hm : (key, info) ∈ schema.infos) : info ∈ infos ∧ key = info.propertyName := by
  have hl := Fields.lookup_eq_some_of_mem h.nodup_infos hm
  rw [h.lookup_infos] at hl
  have hkey := List.find?_some hl
  exact ⟨List.mem_reverse.mp (List.mem_of_find?_eq_some hl), (eq_of_beq hkey).symm⟩

/-- If no two infos answer to one name, a schema holds all of them, each under its property. -/
theorem mem_infos_iff (h : schema.BuiltFrom infos) (hu : Unambiguous infos) {key : String}
    {info : Info} : (key, info) ∈ schema.infos ↔ info ∈ infos ∧ key = info.propertyName := by
  constructor
  · exact h.mem_of_mem_infos
  · rintro ⟨hi, rfl⟩
    exact Fields.mem_of_lookup_eq_some (h.lookup_infos_of_mem hu hi)

/-- A name that leads to a property is one that some info of this property answers to. -/
theorem exists_answersTo_of_lookup (h : schema.BuiltFrom infos) {name key : String}
    (hl : schema.aliases.lookup name = some key) :
    ∃ info ∈ infos, info.answersTo name = true ∧ info.propertyName = key := by
  rw [h.lookup_aliases] at hl
  obtain ⟨info, hf, hkey⟩ := Option.map_eq_some_iff.mp hl
  have ha := List.find?_some hf
  exact ⟨info, List.mem_reverse.mp (List.mem_of_find?_eq_some hf), ha, hkey⟩

/-- A name never leads to a property that the schema lacks. -/
theorem mem_keys_of_mem_aliases (h : schema.BuiltFrom infos) {name key : String}
    (hm : (name, key) ∈ schema.aliases) : key ∈ Fields.keys schema.infos := by
  have hl := Fields.lookup_eq_some_of_mem h.nodup_aliases hm
  obtain ⟨info, hi, -, rfl⟩ := h.exists_answersTo_of_lookup hl
  obtain ⟨i, -, hlookup, -⟩ := h.exists_lookup_infos hi
  exact List.mem_map_of_mem (Fields.mem_of_lookup_eq_some hlookup)

/-- For a name that is known to the schema, an info is found with the property of one that answers
to the name. The two need not be the same, if the property stands in several tables. -/
theorem exists_find_of_mem_keys (h : schema.BuiltFrom infos) {name : String}
    (hn : Text.lower name ∈ Fields.keys schema.aliases) :
    ∃ found ∈ infos, ∃ named ∈ infos, schema.find name = .ok found ∧
      named.answersTo (Text.lower name) = true ∧ named.propertyName = found.propertyName := by
  have hs : schema.aliases.lookup (Text.lower name) ≠ none := fun hnone =>
    Fields.lookup_eq_none.mp hnone hn
  obtain ⟨key, hk⟩ := Option.ne_none_iff_exists'.mp hs
  obtain ⟨named, hnamed, ha, rfl⟩ := h.exists_answersTo_of_lookup hk
  obtain ⟨found, hfound, hlookup, hp⟩ := h.exists_lookup_infos hnamed
  exact ⟨found, hfound, named, hnamed, find_of_lookup hk hlookup, ha, hp.symm⟩

end BuiltFrom

end MarkupTree.Schema
