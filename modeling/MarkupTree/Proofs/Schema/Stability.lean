import MarkupTree.Proofs.Schema.Space

/-!
# Looking up what was found

The attribute name that is found for a name is itself looked up when the list of attributes is
built. That second look-up finds the same again.

Results:

* `isRest_ensureDash_dash`: the attribute name of a data property is the name of a data attribute.
* `unknown_attributeName`: the two look-ups agree on names that stand in no table.
* `find_eq_info`: a look-up never fails.
* `exists_info_attributeName`: the two look-ups agree, in both spaces and for every name.
-/

namespace MarkupTree

namespace Schema

/-- Whether two infos describe the same attribute, apart from its property name. -/
structure Info.Alike (i j : Info) : Prop where
  attributeName : i.attributeName = j.attributeName
  traits : i.traits = j.traits
  space : i.space = j.space

theorem Info.Alike.has {i j : Info} (h : i.Alike j) (trait : Trait) : i.has trait = j.has trait := by
  rw [Info.has, Info.has, h.traits]

namespace DataName

/-! ## Data names -/

theorem isNameChar_toLower {c : Char} (h : c.isUpper = true) : isNameChar c.toLower = true :=
  Text.forall_ascii (P := fun c => c.isUpper = true → isNameChar c.toLower = true)
    (by decide) (Text.toNat_lt_of_isUpper h) h

/-- Name characters, perhaps with a line break behind them. -/
theorem isRest_iff {rest : List Char} :
    isRest rest = true ↔ ∃ body, body ≠ [] ∧ (∀ c ∈ body, isNameChar c = true) ∧
      (rest = body ∨ rest = body ++ ['\n']) := by
  constructor
  · intro h
    rw [isRest, Bool.and_eq_true, Bool.not_eq_true', List.isEmpty_eq_false_iff,
      List.all_eq_true] at h
    refine ⟨_, h.1, h.2, ?_⟩
    split
    · rename_i hl
      obtain ⟨ys, rfl⟩ := List.getLast?_eq_some_iff.mp (eq_of_beq hl)
      exact Or.inr (by rw [List.dropLast_concat])
    · exact Or.inl rfl
  · rintro ⟨body, hne, hall, rfl | rfl⟩
    · have hl : (rest.getLast? == some '\n') = false := by
        rw [beq_eq_false_iff_ne]
        intro hl
        exact absurd (hall _ (List.mem_of_getLast? hl)) (by decide)
      rw [isRest, hl]
      simpa [hne] using hall
    · rw [isRest]
      simpa [hne] using hall

theorem dash_ne_nil {cs : List Char} (h : cs ≠ []) : dash cs ≠ [] := by
  obtain ⟨c, rest, rfl⟩ := List.exists_cons_of_ne_nil h
  rw [dash, List.flatMap_cons]
  split <;> exact List.cons_ne_nil _ _

theorem isNameChar_of_mem_dash {cs : List Char} (h : ∀ c ∈ cs, isNameChar c = true) {d : Char}
    (hd : d ∈ dash cs) : isNameChar d = true := by
  obtain ⟨c, hc, hd⟩ := List.mem_flatMap.mp hd
  split at hd
  · rename_i hu
    rcases List.mem_cons.mp hd with rfl | hd
    · decide
    · rw [List.mem_singleton.mp hd]
      exact isNameChar_toLower hu
  · rw [List.mem_singleton.mp hd]
    exact h c hc

theorem ensureDash_cases (cs : List Char) : ensureDash cs = cs ∨ ensureDash cs = '-' :: cs := by
  unfold ensureDash
  split
  · exact Or.inl rfl
  · exact Or.inr rfl

theorem exists_ensureDash (cs : List Char) : ∃ ds, ensureDash cs = '-' :: ds := by
  unfold ensureDash
  split
  · exact ⟨_, rfl⟩
  · exact ⟨_, rfl⟩

theorem isRest_dash {rest : List Char} (h : isRest rest = true) : isRest (dash rest) = true := by
  obtain ⟨body, hne, hall, hr⟩ := isRest_iff.mp h
  refine isRest_iff.mpr ⟨dash body, dash_ne_nil hne, fun _ => isNameChar_of_mem_dash hall, ?_⟩
  rcases hr with rfl | rfl
  · exact Or.inl rfl
  · exact Or.inr (dash_append _ _)

theorem isRest_cons_dash {rest : List Char} (h : isRest rest = true) :
    isRest ('-' :: rest) = true := by
  obtain ⟨body, hne, hall, hr⟩ := isRest_iff.mp h
  refine isRest_iff.mpr ⟨'-' :: body, List.cons_ne_nil _ _, ?_, ?_⟩
  · intro c hc
    rcases List.mem_cons.mp hc with rfl | hc
    · decide
    · exact hall c hc
  · rcases hr with rfl | rfl
    · exact Or.inl rfl
    · exact Or.inr rfl

theorem isRest_ensureDash_dash {rest : List Char} (h : isRest rest = true) :
    isRest (ensureDash (dash rest)) = true := by
  rcases ensureDash_cases (dash rest) with he | he <;> rw [he]
  · exact isRest_dash h
  · exact isRest_cons_dash (isRest_dash h)

theorem isRest_of_rest? {cs rest : List Char} (h : rest? cs = some rest) : isRest rest = true := by
  unfold rest? at h
  split at h
  · split at h
    · rename_i hd
      cases h
      exact hd.2
    · contradiction
  · contradiction

theorem rest?_data {rest : List Char} (h : isRest rest = true) :
    rest? ("data".toList ++ rest) = some rest := by
  have hd : "data".toList = ['d', 'a', 't', 'a'] := by decide
  rw [hd]
  simp only [List.cons_append, List.nil_append, rest?]
  rw [if_pos ⟨by decide, h⟩]

/-- The attribute name of a property name without dashed letters has a dash after `data`. -/
theorem exists_attributeName_eq {rest : List Char} (h : hasDashedLetter rest = false)
    (name : String) : ∃ ds, ensureDash (dash rest) = '-' :: ds ∧
      attributeName name rest = "data-" ++ String.ofList ds := by
  obtain ⟨ds, hd⟩ := exists_ensureDash (dash rest)
  refine ⟨ds, hd, ?_⟩
  rw [attributeName, h, hd]
  exact String.toList_inj.mp (by simp)

end DataName

/-! ## Names in no table -/

theorem unknown_cases (name : String) :
    DataName.info? name = some (unknown name) ∨ unknown name = .plain name := by
  rw [unknown]
  cases DataName.info? name with
  | none => exact Or.inr rfl
  | some info => exact Or.inl rfl

theorem space_unknown (name : String) : (unknown name).space = none := by
  rcases unknown_cases name with h | h
  · exact (DataName.info?_defined h).2.2
  · rw [h]
    rfl

theorem traits_unknown (name : String) : (unknown name).traits = [] := by
  rcases unknown_cases name with h | h
  · exact (DataName.info?_defined h).2.1
  · rw [h]
    rfl

/-- What is known of the name of a data attribute. -/
theorem unknown_of_rest?_dash {name : String} {rest : List Char}
    (h : DataName.rest? name.toList = some ('-' :: rest)) :
    unknown name =
      { propertyName := DataName.propertyName rest, attributeName := name, defined := true } := by
  rw [unknown, DataName.info?, h]
  rfl

/-- What is known of the name of a data property. -/
theorem unknown_of_rest? {name : String} {rest : List Char}
    (h : DataName.rest? name.toList = some rest) (hne : ∀ ds, rest ≠ '-' :: ds) :
    unknown name =
      { propertyName := name, attributeName := DataName.attributeName name rest,
        defined := true } := by
  rw [unknown, DataName.info?, h]
  split
  · contradiction
  · rename_i ds he
    exact absurd (Option.some.inj he) (hne ds)
  · rename_i he
    rw [Option.some.inj he]
    rfl

theorem unknown_data_dash {s : String} (h : DataName.isRest ('-' :: s.toList) = true) :
    unknown ("data-" ++ s) =
      { propertyName := DataName.propertyName s.toList, attributeName := "data-" ++ s,
        defined := true } := by
  apply unknown_of_rest?_dash
  rw [String.toList_append]
  exact DataName.rest?_data h

/-- The attribute name of an unknown name is the name itself, or it is a data name whose own
attribute name it is. -/
theorem unknown_attributeName (name : String) :
    (unknown name).attributeName = name ∨
      ((∃ s, (unknown name).attributeName = "data-" ++ s) ∧
        ∃ property, unknown (unknown name).attributeName =
          { unknown name with propertyName := property }) := by
  cases hr : DataName.rest? name.toList with
  | none =>
    rw [unknown, DataName.info?_eq_none hr]
    exact Or.inl rfl
  | some rest =>
    by_cases hdash : ∃ ds, rest = '-' :: ds
    · obtain ⟨ds, rfl⟩ := hdash
      rw [unknown_of_rest?_dash hr]
      exact Or.inl rfl
    · rw [unknown_of_rest? hr (not_exists.mp hdash)]
      cases hd : DataName.hasDashedLetter rest with
      | true => exact Or.inl (if_pos hd)
      | false =>
        obtain ⟨ds, hds, ha⟩ := DataName.exists_attributeName_eq hd name
        have hrest := DataName.isRest_ensureDash_dash (DataName.isRest_of_rest? hr)
        rw [hds, ← String.toList_ofList (l := ds)] at hrest
        simp only [ha, unknown_data_dash hrest]
        exact Or.inr ⟨⟨_, rfl⟩, _, rfl⟩

end Schema

/-! ## Names in both schemas -/

namespace Command.Space

open Schema

/-- What the schema of a space knows of a name. -/
def info (space : Space) (name : String) : Info :=
  match space.schema.find name with
  | .ok info => info
  | .error _ => .plain name

/-- A look-up never fails. -/
theorem find_eq_info (space : Space) (name : String) :
    space.schema.find name = .ok (space.info name) := by
  rw [info]
  rcases space.builtFrom.find_cases name with ⟨i, -, h⟩ | h <;> rw [h]

theorem info_cases (space : Space) (name : String) :
    space.info name ∈ space.infos ∨ space.info name = unknown name := by
  rw [info]
  rcases space.builtFrom.find_cases name with ⟨i, hi, h⟩ | h <;> rw [h]
  · exact Or.inl hi
  · exact Or.inr rfl

theorem info_eq_of_find {space : Space} {name : String} {i : Info}
    (h : space.schema.find name = .ok i) : space.info name = i :=
  Except.ok.inj ((space.find_eq_info name).symm.trans h)

/-- An info is in one of the foreign spaces, in that of its schema, or in none. -/
theorem space_info (space : Space) (name : String) :
    (space.info name).space ∈ [some "xml", some "xlink", some "xmlns", none, some space.name] := by
  rcases space.info_cases name with h | h
  · exact space_of_mem h
  · rw [h, space_unknown]
    exact .tail _ (.tail _ (.tail _ (.head _)))

theorem find_data_dash (space : Space) (s : String) :
    space.schema.find ("data-" ++ s) = .ok (unknown ("data-" ++ s)) := by
  obtain ⟨inWord, h⟩ := Text.exists_lowerCodes_append (by decide : Text.isAscii "data-" = true) s
  apply find_of_dashed
  rw [h, List.take_append_of_le_length (by decide)]
  decide

theorem info_attributeName_of_mem {space : Space} {name : String}
    (h : space.info name ∈ space.infos) :
    space.info (space.info name).attributeName = space.info name :=
  info_eq_of_find (find_of_mem h (Info.answersTo_attribute _))

/-- What is known of the attribute name that was found for a name is the same again, but perhaps for
the property name. -/
theorem exists_info_attributeName (space : Space) (name : String) :
    ∃ property, space.info (space.info name).attributeName =
      { space.info name with propertyName := property } := by
  rcases space.info_cases name with h | h
  · exact ⟨_, info_attributeName_of_mem h⟩
  · rcases unknown_attributeName name with he | ⟨⟨s, hs⟩, ha⟩
    · rw [← h] at he
      exact ⟨_, by rw [he]⟩
    · have hdashed := space.find_data_dash s
      rw [← hs] at hdashed
      rw [h, info_eq_of_find hdashed]
      exact ha

theorem info_attributeName (space : Space) (name : String) :
    (space.info (space.info name).attributeName).Alike (space.info name) := by
  obtain ⟨property, h⟩ := space.exists_info_attributeName name
  rw [h]
  exact ⟨rfl, rfl, rfl⟩

end Command.Space

end MarkupTree
