import MarkupTree.Proofs.Attribute.Foreign

/-!
# Names and namespaces of attributes

The namespace of an attribute comes from a look-up in any letter case, and the qualifier from the
text of its name. For the attributes that a conversion makes the two agree, because names are looked
up twice, the second time as they stand in the tables.

Results:

* `foreignInfos`, `mem_foreignInfos`: the tables of the foreign namespaces.
* `isPlaced_of_mem`: an attribute is in the namespace to which its name belongs.
* `nodup_expandedNames`: no two attributes of an element have the same name in the same namespace.
* `valueOf?_eq_some_iff`: so an attribute is found by its name.
-/

namespace MarkupTree

/-! ## Tables -/

namespace Schema

/-- The infos of the tables of the three foreign namespaces. -/
def foreignInfos : List Info := [xml, xlink, xmlns].flatMap fun schema => schema.infos.map Prod.snd

theorem foreignInfos_eq :
    foreignInfos = tableInfos Table.xmlProperties (replaceStart "xml:" 3) (some "xml") ++
      (tableInfos Table.xlinkProperties (replaceStart "xlink:" 5) (some "xlink") ++
        tableInfos Table.xmlnsProperties (caseInsensitive Table.xmlnsAttributes)
          (some "xmlns")) := by
  decide +kernel

/-- All of them are in foreign namespaces. None is called like a declaration of the namespace of
declarations. -/
theorem foreignInfos_checked : (foreignInfos.all fun info =>
    (Attribute.qualifiers.any fun q => info.space == some q) &&
      info.attributeName != "xmlns:xmlns") = true := by
  decide +kernel

theorem exists_space_of_mem_foreignInfos {info : Info} (h : info ∈ foreignInfos) :
    ∃ q ∈ Attribute.qualifiers, info.space = some q := by
  have hinfo := List.all_eq_true.mp foreignInfos_checked info h
  rw [Bool.and_eq_true] at hinfo
  obtain ⟨q, hq, hs⟩ := List.any_eq_true.mp hinfo.1
  exact ⟨q, hq, beq_iff_eq.mp hs⟩

end Schema

namespace Command.Space

open Schema (foreignInfos)

/-- The tables of the foreign namespaces are part of both schemas. -/
theorem mem_infos_of_mem_foreignInfos {info : Schema.Info} (h : info ∈ foreignInfos)
    (space : Space) : info ∈ space.infos := by
  rw [Schema.foreignInfos_eq] at h
  simp only [infos, sharedDefinitions, List.flatMap_append, List.flatMap_cons, List.flatMap_nil,
    List.append_nil, List.mem_append] at h ⊢
  rcases h with h | h | h
  · exact .inl (.inl h)
  · exact .inl (.inr (.inl h))
  · exact .inl (.inr (.inr (.inl h)))

/-- An info of a schema that is in a foreign namespace stands in one of their tables. -/
theorem mem_foreignInfos {space : Space} {info : Schema.Info} {q : String}
    (hq : q ∈ Attribute.qualifiers) (hs : info.space = some q) (h : info ∈ space.infos) :
    info ∈ foreignInfos := by
  rw [Schema.foreignInfos_eq]
  simp only [infos, sharedDefinitions, List.flatMap_append, List.flatMap_cons, List.flatMap_nil,
    List.append_nil, List.mem_append] at h ⊢
  rcases h with (h | h | h | h) | h
  · exact .inl h
  · exact .inr (.inl h)
  · exact .inr (.inr h)
  · obtain ⟨p, -, rfl⟩ := List.mem_map.mp h
    contradiction
  · have hne : ∀ q ∈ Attribute.qualifiers, some space.name ≠ some q := by
      cases space <;> decide
    cases space <;> obtain ⟨p, -, rfl⟩ := List.mem_map.mp h <;> exact absurd hs (hne q hq)

theorem info_mem_foreignInfos {space : Space} {name q : String} (hq : q ∈ Attribute.qualifiers)
    (hs : (space.info name).space = some q) : space.info name ∈ foreignInfos := by
  rcases space.info_cases name with h | h
  · exact mem_foreignInfos hq hs h
  · rw [h, Schema.space_unknown] at hs
    contradiction

/-- An attribute name that was found and is that of a foreign info is in its namespace. -/
theorem space_of_answersTo {space : Space} {info : Schema.Info} (hi : info ∈ foreignInfos)
    {name : String} (ha : info.answersTo (Text.lower (space.info name).attributeName) = true) :
    (space.info name).space = info.space := by
  have halike := space.info_attributeName name
  rw [info_eq_of_find (find_of_mem (mem_infos_of_mem_foreignInfos hi space) ha)] at halike
  exact halike.space.symm

end Command.Space

namespace Attribute

open Command (Space)
open Schema (foreignInfos)

/-! ## Places of attributes -/

/-- Whether an attribute has a known qualifier, is in the namespace that belongs to it, and stands
with it in the table of this namespace. -/
def IsQualified (a : Attribute) : Prop :=
  ∃ q ∈ qualifiers, ∃ name uri, a.qualifier = .str q ∧ a.name = .str name ∧
    Namespace.uri? q = some uri ∧ a.namespaceURI = .str uri ∧
    ∃ info ∈ foreignInfos, info.space = some q ∧ info.attributeName = q ++ ":" ++ name

/-- Whether an attribute is the declaration of the default namespace. -/
def IsDeclaration (a : Attribute) : Prop :=
  a.qualifier = .str "" ∧ a.name = .str "xmlns" ∧
    ∃ uri, Namespace.uri? "xmlns" = some uri ∧ a.namespaceURI = .str uri

/-- Whether an attribute is in the namespace to which its name belongs. -/
structure IsPlaced (a : Attribute) : Prop where
  qualifier : a.qualifier = .null ↔ a.namespaceURI = .null
  foreign : a.namespaceURI ≠ .null → a.IsQualified ∨ a.IsDeclaration
  /-- The name of an attribute without a namespace is that of no foreign one, in any letter case. -/
  own : a.namespaceURI = .null → ∃ name, a.name = .str name ∧
    ∀ info ∈ foreignInfos, Text.lower name ≠ Text.lower info.propertyName ∧
      Text.lower name ≠ Text.lower info.attributeName

theorem IsPlaced.exists_name {a : Attribute} (h : a.IsPlaced) : ∃ name, a.name = .str name := by
  by_cases hu : a.namespaceURI = .null
  · obtain ⟨name, hname, -⟩ := h.own hu
    exact ⟨name, hname⟩
  · rcases h.foreign hu with ⟨_, _, name, _, _, hname, _⟩ | ⟨-, hname, -⟩
    · exact ⟨name, hname⟩
    · exact ⟨"xmlns", hname⟩

theorem IsPlaced.nameText?_isSome {a : Attribute} (h : a.IsPlaced) : (Node.nameText? a).isSome := by
  have htext : ∃ s, a.displayName = .str s := by
    rw [displayName]
    split
    · exact ⟨_, rfl⟩
    · exact h.exists_name
  obtain ⟨s, hs⟩ := htext
  rw [Node.nameText?, hs]
  rfl

theorem ne_of_not_answersTo {info : Schema.Info} {name : String}
    (h : ¬ info.answersTo name = true) :
    name ≠ Text.lower info.propertyName ∧ name ≠ Text.lower info.attributeName :=
  not_or.mp (mt Schema.Info.answersTo_iff.mpr h)

/-- An entry that is in no foreign namespace has the name of no foreign info. -/
theorem not_answersTo_of_not_foreign {space : Space} {entry : Entry} {property : String}
    (hinfo : entry.info = space.info property) (hu : entry.foreignURI? = none)
    {info : Schema.Info} (hi : info ∈ foreignInfos) :
    ¬ info.answersTo (Text.lower entry.name) = true := by
  intro ha
  rw [Entry.name, hinfo] at ha
  obtain ⟨q, hq, hs⟩ := Schema.exists_space_of_mem_foreignInfos hi
  rw [Entry.foreignURI?, hinfo, Space.space_of_answersTo hi ha, hs] at hu
  simp only [qualifiers, List.mem_cons, List.not_mem_nil, or_false] at hq
  rcases hq with rfl | rfl | rfl <;> contradiction

theorem isPlaced_of_makes {space : Space} {entry : Entry} {property : String} {a : Attribute}
    (hinfo : entry.info = space.info property) (h : entry.Makes a) : a.IsPlaced := by
  cases h with
  | plain hu =>
    exact
      { qualifier := Iff.rfl
        foreign := fun hne => absurd rfl hne
        own := fun _ => ⟨_, rfl, fun info hi =>
          ne_of_not_answersTo (not_answersTo_of_not_foreign hinfo hu hi)⟩ }
  | declaration huri =>
    exact
      { qualifier := by simp
        foreign := fun _ => .inr ⟨rfl, rfl, _, huri, rfl⟩
        own := fun h => by contradiction }
  | qualified hq hspace huri hname =>
    rw [hinfo] at hspace
    rw [Entry.name, hinfo] at hname
    have hmem := Space.info_mem_foreignInfos hq hspace
    exact
      { qualifier := by simp
        foreign := fun _ => .inl ⟨_, hq, _, _, rfl, rfl, huri, rfl, _, hmem, hspace, hname⟩
        own := fun h => by contradiction }

/-- The attributes that a conversion makes are in the namespaces to which their names belong. -/
theorem isPlaced_of_mem {space : Space} {properties : Value} {attrs : List Attribute}
    (h : ofProperties space.schema properties = .ok attrs) {a : Attribute} (ha : a ∈ attrs) :
    a.IsPlaced := by
  obtain ⟨entry, ⟨property, hinfo⟩, rfl⟩ := exists_entry_of_mem h ha
  exact isPlaced_of_makes hinfo (makes_toAttribute hinfo)

/-! ## Expanded names -/

/-- The name of an attribute with its namespace. -/
def expandedName (a : Attribute) : Value × Value := (a.namespaceURI, a.name)

theorem qualifier_inj {uri : String} : ∀ q ∈ qualifiers, ∀ q' ∈ qualifiers,
    Namespace.uri? q = some uri → Namespace.uri? q' = some uri → q = q' := by
  have hdistinct : ∀ q ∈ qualifiers, ∀ q' ∈ qualifiers,
      Namespace.uri? q = Namespace.uri? q' → q = q' := by
    decide
  intro q hq q' hq' h h'
  exact hdistinct q hq q' hq' (h.trans h'.symm)

/-- The declaration of the default namespace is the only one with its name in its namespace. -/
theorem ne_declaration_of_makes {space : Space} {entry : Entry} {property q uri name : String}
    (hinfo : entry.info = space.info property) (hq : q ∈ qualifiers)
    (hspace : entry.info.space = some q) (hname : entry.name = q ++ ":" ++ name)
    (huri : Namespace.uri? q = some uri) (hxmlns : Namespace.uri? "xmlns" = some uri) :
    name ≠ "xmlns" := by
  rintro rfl
  obtain rfl := qualifier_inj q hq "xmlns" (by decide) huri hxmlns
  rw [hinfo] at hspace
  have hchecked := List.all_eq_true.mp Schema.foreignInfos_checked _
    (Space.info_mem_foreignInfos hq hspace)
  rw [Entry.name, hinfo] at hname
  rw [hname, Bool.and_eq_true] at hchecked
  exact absurd hchecked.2 (by decide)

/-- Entries whose attributes have the same name in the same namespace have the same name. -/
theorem name_eq_of_expandedName_eq {space : Space} {e e' : Entry} {property property' : String}
    (hinfo : e.info = space.info property) (hinfo' : e'.info = space.info property')
    (h : e.toAttribute.expandedName = e'.toAttribute.expandedName) : e.name = e'.name := by
  have hmakes := makes_toAttribute hinfo
  have hmakes' := makes_toAttribute hinfo'
  generalize e.toAttribute = a at h hmakes
  generalize e'.toAttribute = a' at h hmakes'
  rw [expandedName, expandedName, Prod.mk.injEq] at h
  obtain ⟨hns, hname⟩ := h
  cases hmakes with
  | plain =>
    cases hmakes' with
    | plain => exact Value.str.inj hname
    | declaration => contradiction
    | qualified => contradiction
  | declaration huri he =>
    cases hmakes' with
    | plain => contradiction
    | declaration _ he' => rw [he, he']
    | qualified hq' hspace' huri' he' =>
      obtain rfl := Value.str.inj hns
      exact absurd (Value.str.inj hname).symm
        (ne_declaration_of_makes hinfo' hq' hspace' he' huri' huri)
  | qualified hq hspace huri he =>
    cases hmakes' with
    | plain => contradiction
    | declaration huri' he' =>
      obtain rfl := Value.str.inj hns
      exact absurd (Value.str.inj hname) (ne_declaration_of_makes hinfo hq hspace he huri huri')
    | qualified hq' _ huri' he' =>
      obtain rfl := Value.str.inj hns
      obtain rfl := Value.str.inj hname
      rw [he, he', qualifier_inj _ hq _ hq' huri huri']

/-- No two attributes of an element have the same name in the same namespace. -/
theorem nodup_expandedNames {space : Space} {properties : Value} {attrs : List Attribute}
    (h : ofProperties space.schema properties = .ok attrs) : (attrs.map expandedName).Nodup := by
  obtain ⟨es, rfl, hnodup, hinfo⟩ := exists_entries_of_ofProperties h
  rw [List.map_map]
  refine List.Nodup.map_on ?_ hnodup.of_map
  intro e he e' he' hsame
  obtain ⟨property, hp⟩ := hinfo e he
  obtain ⟨property', hp'⟩ := hinfo e' he'
  exact List.inj_on_of_nodup_map hnodup he he' (name_eq_of_expandedName_eq hp hp' hsame)

/-! ## Finding attributes -/

/-- Where no two attributes have the same name in the same namespace, an attribute without a
namespace is found by its name. -/
theorem valueOf?_eq_some_iff {attrs : List Attribute} (h : (attrs.map expandedName).Nodup)
    (htext : ∀ a ∈ attrs, ∃ s, a.name = .str s) (name : String) (v : Value) :
    valueOf? attrs (.str name) = some v ↔
      ∃ a ∈ attrs, a.name = .str name ∧ a.value = v ∧ a.namespaceURI = .null := by
  have hiff : ∀ a ∈ attrs, (a.name.same (.str name) && !a.isForeign) = true ↔
      a.name = .str name ∧ a.namespaceURI = .null := by
    intro a ha
    obtain ⟨s, hs⟩ := htext a ha
    rw [Bool.and_eq_true, Bool.not_eq_true', isForeign_eq_false, hs, Value.same_str, beq_iff_eq,
      Value.str.injEq, eq_comm]
  rw [valueOf?, Option.map_eq_some_iff]
  constructor
  · rintro ⟨a, hf, rfl⟩
    have ha := List.mem_of_find?_eq_some hf
    have hfound := List.find?_some hf
    obtain ⟨hname, hns⟩ := (hiff a ha).mp hfound
    exact ⟨a, ha, hname, rfl, hns⟩
  · rintro ⟨a, ha, hname, rfl, hns⟩
    refine ⟨a, Lists.find?_eq_some_of_unique ha ((hiff a ha).mpr ⟨hname, hns⟩) ?_, rfl⟩
    intro b hb hfound
    obtain ⟨hname', hns'⟩ := (hiff b hb).mp hfound
    have hsame : b.expandedName = a.expandedName := by
      rw [expandedName, expandedName, hname, hname', hns, hns']
    exact List.inj_on_of_nodup_map h hb ha hsame

end Attribute

end MarkupTree
