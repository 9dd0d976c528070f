import MarkupTree.Proofs.Attribute.Foreign

/-!
# The order of attributes

If the properties of an element make different attributes, their order decides on nothing but the
order of the attributes. The names under which the attributes are shown in a dump are then different
as well, unless there are blanks in them.

Results:

* `blank_not_mem_attributeName`: no look-up puts a blank into a name.
* `perm_ofLastWrites`: reordered properties make reordered attributes.
* `nodup_displayNames`: different attributes are shown under different names.
-/

namespace MarkupTree

/-! ## Blanks in names -/

theorem Schema.DataName.blank_not_mem_of_isRest {rest : List Char} (h : isRest rest = true) :
    ' ' ∉ rest := by
  obtain ⟨body, -, hall, hbody⟩ := isRest_iff.mp h
  have hblank : ' ' ∉ body := fun hmem => absurd (hall ' ' hmem) (by decide)
  rcases hbody with rfl | rfl
  · exact hblank
  · rw [List.mem_append, not_or]
    exact ⟨hblank, by decide⟩

theorem Schema.blank_not_mem_unknown {name : String} (h : ' ' ∉ name.toList) :
    ' ' ∉ (Schema.unknown name).attributeName.toList := by
  cases hr : DataName.rest? name.toList with
  | none =>
    rw [unknown, DataName.info?_eq_none hr]
    exact h
  | some rest =>
    by_cases hdash : ∃ ds, rest = '-' :: ds
    · obtain ⟨ds, rfl⟩ := hdash
      rw [unknown_of_rest?_dash hr]
      exact h
    · rw [unknown_of_rest? hr (not_exists.mp hdash), DataName.attributeName]
      split
      · exact h
      · have hrest := DataName.isRest_ensureDash_dash (DataName.isRest_of_rest? hr)
        rw [String.toList_ofList, List.mem_append, not_or]
        exact ⟨by decide, DataName.blank_not_mem_of_isRest hrest⟩

namespace Command.Space

theorem blank_not_mem_of_mem_infos {space : Space} {info : Schema.Info} (h : info ∈ space.infos) :
    ' ' ∉ info.attributeName.toList := by
  intro hblank
  have hcode := blank_not_mem_of_mem_codes (answersTo_mem_codes h info.answersTo_attribute)
  have hlower := Text.mem_lowerFrom (by decide) (by decide) hblank false
  exact hcode (List.mem_map_of_mem hlower)

/-- No look-up puts a blank into a name. -/
theorem blank_not_mem_attributeName {space : Space} {name : String} (h : ' ' ∉ name.toList) :
    ' ' ∉ (space.info name).attributeName.toList := by
  rcases space.info_cases name with hi | hi
  · exact blank_not_mem_of_mem_infos hi
  · rw [hi]
    exact Schema.blank_not_mem_unknown h

end Command.Space

namespace Attribute

open Command (Space)

/-! ## Properties in another order -/

/-- Whether properties have names without blanks, and those that count make different attributes. -/
structure AreDistinct (space : Space) (properties : List (String × Value)) : Prop where
  blank_not_mem : ∀ property ∈ properties, ' ' ∉ property.1.toList
  nodup : ((properties.filter fun property => !isAbsent property.2).map fun property =>
    (space.info property.1).attributeName).Nodup

variable {space : Space} {properties properties' : List (String × Value)}

theorem names_entries (space : Space) (properties : List (String × Value)) :
    (entries space.info properties).map Entry.name =
      (properties.filter fun property => !isAbsent property.2).map fun property =>
        (space.info property.1).attributeName := by
  induction properties with
  | nil => rfl
  | cons property rest ih =>
    rw [entries, List.filterMap_cons, Entry.ofProperty?_eq, List.filter_cons]
    cases isAbsent property.2 with
    | true => exact ih
    | false => exact congrArg (_ :: ·) ih

theorem AreDistinct.perm (h : AreDistinct space properties) (hp : properties.Perm properties') :
    AreDistinct space properties' where
  blank_not_mem property hmem := h.blank_not_mem property (hp.mem_iff.mpr hmem)
  nodup := ((hp.filter _).map _).nodup_iff.mp h.nodup

theorem AreDistinct.nodup_names (h : AreDistinct space properties) :
    ((entries space.info properties).map Entry.name).Nodup := by
  rw [names_entries]
  exact h.nodup

/-- Each of the properties makes its own attribute. -/
theorem AreDistinct.ofLastWrites_eq (h : AreDistinct space properties) :
    ofLastWrites space.info properties =
      ((entries space.info properties).filter (!·.isLeftOut)).map Entry.toAttribute := by
  rw [ofLastWrites, lastWrites_eq_self h.nodup_names]

/-- Reordered properties make reordered attributes. -/
theorem perm_ofLastWrites (h : AreDistinct space properties) (hp : properties.Perm properties') :
    (ofLastWrites space.info properties).Perm (ofLastWrites space.info properties') := by
  rw [h.ofLastWrites_eq, (h.perm hp).ofLastWrites_eq]
  exact ((hp.filterMap _).filter _).map _

/-! ## Names in a dump -/

theorem AreDistinct.blank_not_mem_name (h : AreDistinct space properties) {entry : Entry}
    (he : entry ∈ entries space.info properties) : ' ' ∉ entry.name.toList := by
  obtain ⟨property, hproperty, hinfo⟩ := info_of_mem_entries he
  rw [Entry.name, hinfo]
  exact Space.blank_not_mem_attributeName (h.blank_not_mem property hproperty)

/-- The name under which the attribute of an entry is shown is that of the entry, or has a known
qualifier, followed by a blank, in place of the qualifier in the name of the entry. -/
theorem displayName_of_makes {entry : Entry} {a : Attribute} (h : entry.Makes a) :
    a.displayName = .str entry.name ∨
      ∃ q ∈ qualifiers, ∃ name, a.displayName = .str (q ++ " " ++ name) ∧
        entry.name = q ++ ":" ++ name := by
  cases h with
  | plain => exact .inl rfl
  | declaration huri hname =>
    rw [hname]
    exact .inl displayName_unqualified
  | qualified hq hspace huri hname =>
    exact .inr ⟨_, hq, _, displayName_qualified (isName_qualifiers _ hq).1, hname⟩

/-- Entries that are shown under the same name have the same name. -/
theorem name_eq_of_displayName_eq {e e' : Entry} {a a' : Attribute} (h : e.Makes a)
    (h' : e'.Makes a') (hblank : ' ' ∉ e.name.toList) (hblank' : ' ' ∉ e'.name.toList)
    (hshown : a.displayName = a'.displayName) : e.name = e'.name := by
  have hmem : ∀ q name : String, ' ' ∈ (q ++ " " ++ name).toList := by
    intro q name
    simp
  rcases displayName_of_makes h with hd | ⟨q, hq, name, hd, hname⟩ <;>
    rcases displayName_of_makes h' with hd' | ⟨q', hq', name', hd', hname'⟩ <;>
    rw [hd, hd', Value.str.injEq] at hshown
  · exact hshown
  · rw [hshown] at hblank
    exact absurd (hmem q' name') hblank
  · rw [← hshown] at hblank'
    exact absurd (hmem q name) hblank'
  · obtain ⟨rfl, rfl⟩ := qualified_inj (isName_qualifiers q hq) (isName_qualifiers q' hq') hshown
    rw [hname, hname']

/-- Different attributes are shown under different names. -/
theorem nodup_displayNames (h : AreDistinct space properties) :
    ((ofLastWrites space.info properties).map displayName).Nodup := by
  have hnodup := h.nodup_names
  rw [h.ofLastWrites_eq, List.map_map]
  refine List.Nodup.map_on ?_ (hnodup.of_map.filter _)
  intro e he e' he' hshown
  have hmem := (List.mem_filter.mp he).1
  have hmem' := (List.mem_filter.mp he').1
  obtain ⟨property, -, hinfo⟩ := info_of_mem_entries hmem
  obtain ⟨property', -, hinfo'⟩ := info_of_mem_entries hmem'
  have hname := name_eq_of_displayName_eq (makes_toAttribute hinfo) (makes_toAttribute hinfo')
    (h.blank_not_mem_name hmem) (h.blank_not_mem_name hmem') hshown
  exact List.inj_on_of_nodup_map hnodup hmem hmem' hname

end Attribute

end MarkupTree
