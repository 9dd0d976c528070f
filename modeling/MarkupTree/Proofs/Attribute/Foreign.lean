import MarkupTree.Proofs.Attribute.Line
import MarkupTree.Proofs.Attribute.Made

/-!
# Attributes of foreign namespaces

The names of the attributes of a foreign namespace start with the name of the namespace and a colon.
Only the declaration of the default namespace has a name of its own, and no other attribute has it.

Results:

* `isQualifiedAs_info`: the names of attributes in foreign namespaces.
* `space_of_attributeName`: which attribute is the declaration of the default namespace.
* `makes_toAttribute`: the qualifier of an attribute is that of its namespace.
* `isLegible_of_mem`: the attributes that a conversion makes can be told by their lines.
-/

namespace MarkupTree.Attribute

open Command (Space)
open Node (IsName)

/-- Whether a name starts with the name of its namespace, or is that of the declaration of the
default namespace. -/
def isQualifiedAs (space name : String) : Bool :=
  name == "xmlns" && space == "xmlns" || (Entry.splitName name).1 == space

/-! ## Tables -/

theorem foreign_checked (space : Space) : (space.infos.all fun info =>
    qualifiers.all fun q => info.space != some q || isQualifiedAs q info.attributeName) = true := by
  cases space <;> decide +kernel

theorem declaration_checked (space : Space) : (space.infos.any fun info =>
    info.space == some "xmlns" && info.attributeName == "xmlns") = true := by
  cases space <;> decide +kernel

/-- The name of an attribute in a foreign namespace starts with that of the namespace. -/
theorem isQualifiedAs_info {space : Space} {name q : String} (hq : q ∈ qualifiers)
    (h : (space.info name).space = some q) :
    isQualifiedAs q (space.info name).attributeName = true := by
  rcases space.info_cases name with hi | hi
  · have hall := List.all_eq_true.mp (List.all_eq_true.mp (foreign_checked space) _ hi) q hq
    rw [h, bne_self_eq_false, Bool.false_or] at hall
    exact hall
  · rw [hi, Schema.space_unknown] at h
    contradiction

/-- Whatever has the name of the declaration of the default namespace is in its namespace. -/
theorem space_of_attributeName {space : Space} {name : String}
    (h : (space.info name).attributeName = "xmlns") : (space.info name).space = some "xmlns" := by
  obtain ⟨info, hi, hinfo⟩ := List.any_eq_true.mp (declaration_checked space)
  rw [Bool.and_eq_true, beq_iff_eq, beq_iff_eq] at hinfo
  have hfind := Space.find_of_mem hi (Schema.Info.answersTo_attribute info)
  rw [hinfo.2] at hfind
  have halike := space.info_attributeName name
  rw [h, Space.info_eq_of_find hfind] at halike
  exact halike.space.symm.trans hinfo.1

/-! ## Attributes -/

theorem foreignURI?_eq_some {entry : Entry} {uri : String} (h : entry.foreignURI? = some uri) :
    ∃ q ∈ qualifiers, entry.info.space = some q ∧ Namespace.uri? q = some uri := by
  rw [Entry.foreignURI?] at h
  split at h
  · rename_i hs
    obtain rfl := Option.some.inj h
    exact ⟨"xlink", by decide, hs, rfl⟩
  · rename_i hs
    obtain rfl := Option.some.inj h
    exact ⟨"xml", by decide, hs, rfl⟩
  · rename_i hs
    obtain rfl := Option.some.inj h
    exact ⟨"xmlns", by decide, hs, rfl⟩
  · contradiction

theorem ne_xmlns_of_not_foreign {space : Space} {entry : Entry} {name : String}
    (hinfo : entry.info = space.info name) (h : entry.foreignURI? = none) :
    entry.name ≠ "xmlns" := by
  intro hname
  rw [Entry.name, hinfo] at hname
  rw [Entry.foreignURI?, hinfo, space_of_attributeName hname] at h
  contradiction

/-- A name in which something comes before the first colon is put together from the two parts. -/
theorem eq_of_splitName {name : String} (h : (Entry.splitName name).1 ≠ "") :
    name = (Entry.splitName name).1 ++ ":" ++ (Entry.splitName name).2 := by
  cases hs : splitQualifier name.toList with
  | none =>
    rw [Entry.splitName, if_neg (colon_not_mem_of_splitQualifier hs)] at h
    exact absurd rfl h
  | some parts =>
    obtain ⟨before, after⟩ := parts
    obtain ⟨hcolon, hbefore, hafter⟩ := colon_mem_of_splitQualifier hs
    obtain ⟨hname, -⟩ := splitQualifier_eq_some_iff.mp hs
    rw [Entry.splitName, if_pos hcolon, hbefore, hafter]
    exact String.toList_inj.mp (by simp [hname])

/-- The attribute that an entry makes, by the namespace it is in. -/
inductive Entry.Makes (entry : Entry) : Attribute → Prop
  | plain (h : entry.foreignURI? = none) :
    Makes entry { name := .str entry.name, value := .str entry.text }
  | declaration {uri : String} (huri : Namespace.uri? "xmlns" = some uri)
    (hname : entry.name = "xmlns") :
    Makes entry
      { name := .str "xmlns", value := .str entry.text, qualifier := .str "",
        namespaceURI := .str uri }
  | qualified {q name uri : String} (hq : q ∈ qualifiers) (hspace : entry.info.space = some q)
    (huri : Namespace.uri? q = some uri) (hname : entry.name = q ++ ":" ++ name) :
    Makes entry
      { name := .str name, value := .str entry.text, qualifier := .str q,
        namespaceURI := .str uri }

/-- The qualifier that is cut off the name of an entry is that of its namespace. -/
theorem makes_toAttribute {space : Space} {entry : Entry} {property : String}
    (hinfo : entry.info = space.info property) : entry.Makes entry.toAttribute := by
  rcases toAttribute_cases entry with ⟨hu, he⟩ | ⟨uri, hu, he⟩
  · rw [he]
    exact .plain hu
  · rw [he]
    obtain ⟨q, hq, hspace, huri⟩ := foreignURI?_eq_some hu
    have hqualified : isQualifiedAs q entry.name = true := by
      rw [Entry.name, hinfo]
      exact isQualifiedAs_info hq (hinfo ▸ hspace)
    rw [isQualifiedAs, Bool.or_eq_true, Bool.and_eq_true, beq_iff_eq, beq_iff_eq, beq_iff_eq]
      at hqualified
    rcases hqualified with ⟨hxmlns, rfl⟩ | hsplit
    · have hs : Entry.splitName "xmlns" = ("", "xmlns") := by decide
      rw [hxmlns, hs]
      exact .declaration huri hxmlns
    · have hne : (Entry.splitName entry.name).1 ≠ "" := by
        rw [hsplit]
        exact (isName_qualifiers q hq).1
      have hname := eq_of_splitName hne
      rw [hsplit] at hname ⊢
      exact .qualified hq hspace huri hname

/-- The attributes that a conversion makes can be told by their lines, if their names are names and
their values have no line breaks. -/
theorem isLegible_of_mem {space : Space} {properties : Value} {attrs : List Attribute}
    (h : ofProperties space.schema properties = .ok attrs) {a : Attribute} (ha : a ∈ attrs)
    {name value : String} (hname : a.name = .str name) (hn : IsName name)
    (hvalue : a.value = .str value) (hv : '\n' ∉ value.toList) : a.IsLegible := by
  obtain ⟨entry, ⟨property, hinfo⟩, he⟩ := exists_entry_of_mem h ha
  have hmakes := makes_toAttribute hinfo
  rw [← he] at hmakes
  cases hmakes with
  | plain hu =>
    obtain rfl := Value.str.inj hname
    obtain rfl := Value.str.inj hvalue
    exact .plain hn (ne_xmlns_of_not_foreign hinfo hu) hv
  | declaration huri =>
    obtain rfl := Value.str.inj hvalue
    exact .declaration huri hv
  | qualified hq _ huri =>
    obtain rfl := Value.str.inj hname
    obtain rfl := Value.str.inj hvalue
    exact .qualified hq huri hn hv

end MarkupTree.Attribute
