import MarkupTree.Proofs.Attribute.Sorting
import MarkupTree.Proofs.Node.Line

/-!
# Lines of attributes

In a dump, an attribute is shown under its name, with the qualifier in front if it has one that is
not empty. The only attribute with an empty qualifier is the declaration of the default namespace,
and no other attribute has the name of this one.

Results:

* `displayName_of_isLegible`: under which name an attribute is shown.
* `line_inj`: an attribute is told by its line.
* `perm_of_lines`: the lines of the sorted attributes tell them up to their order.
-/

namespace MarkupTree.Attribute

open Node (IsName IsShownName Line)

/-- The qualifiers of the attributes of foreign namespaces. -/
def qualifiers : List String := ["xlink", "xml", "xmlns"]

/-- Whether an attribute is told by its line: it is without a namespace, or the declaration of the
default namespace, or has a known qualifier with the namespace that belongs to it. -/
inductive IsLegible : Attribute → Prop
  | plain {name value : String} (hname : IsName name) (hne : name ≠ "xmlns")
    (hvalue : '\n' ∉ value.toList) : IsLegible { name := .str name, value := .str value }
  | declaration {value uri : String} (huri : Namespace.uri? "xmlns" = some uri)
    (hvalue : '\n' ∉ value.toList) :
    IsLegible { name := .str "xmlns", value := .str value, qualifier := .str "",
                namespaceURI := .str uri }
  | qualified {qualifier uri name value : String} (hq : qualifier ∈ qualifiers)
    (huri : Namespace.uri? qualifier = some uri) (hname : IsName name)
    (hvalue : '\n' ∉ value.toList) :
    IsLegible { name := .str name, value := .str value, qualifier := .str qualifier,
                namespaceURI := .str uri }

/-- What the line of an attribute shows. -/
def line (a : Attribute) : Line := .attr a.displayName.display a.value.display

/-! ## Names -/

variable {name qualifier uri : String} {value : Value}

theorem displayName_plain :
    displayName { name := .str name, value := value } = .str name := rfl

theorem displayName_unqualified :
    displayName { name := .str name, value := value, qualifier := .str "",
                  namespaceURI := .str uri } = .str name := by
  rw [displayName]
  simp

theorem displayName_qualified (h : qualifier ≠ "") :
    displayName { name := .str name, value := value, qualifier := .str qualifier,
                  namespaceURI := .str uri } = .str (qualifier ++ " " ++ name) := by
  rw [displayName]
  simp [isForeign, h]

theorem isName_qualifiers : ∀ q ∈ qualifiers, IsName q := by
  decide

theorem displayName_of_isLegible {a : Attribute} (h : a.IsLegible) :
    ∃ s, a.displayName = .str s ∧ IsShownName s := by
  cases h with
  | plain hname => exact ⟨_, displayName_plain, hname.isShownName⟩
  | declaration =>
    exact ⟨_, displayName_unqualified, (isName_qualifiers "xmlns" (by decide)).isShownName⟩
  | qualified hq huri hname =>
    have hqualifier := isName_qualifiers _ hq
    exact ⟨_, displayName_qualified hqualifier.1, hqualifier.isShownName_append hname⟩

/-! ## Lines -/

/-- A name with a qualifier in front tells both. -/
theorem qualified_inj {q q' n n' : String} (hq : IsName q) (hq' : IsName q')
    (h : q ++ " " ++ n = q' ++ " " ++ n') : q = q' ∧ n = n' := by
  have hlist := String.toList_inj.mpr h
  simp only [String.toList_append, List.append_assoc] at hlist
  have hne : ∀ {s : String}, IsName s → ∀ c ∈ s.toList, (c != ' ') = true := by
    intro s hs c hc
    rw [bne_iff_ne]
    rintro rfl
    exact hs.blank_not_mem hc
  obtain ⟨h₁, h₂⟩ := Lists.stretch_inj (· != ' ') (hne hq) (hne hq') (by simp) (by simp) hlist
  exact ⟨String.toList_inj.mp h₁, String.toList_inj.mp (List.append_cancel_left h₂)⟩

/-- A name is no other name with a qualifier in front. -/
theorem ne_qualified {s : String} (h : IsName s) (q n : String) : s ≠ q ++ " " ++ n := by
  rintro rfl
  exact h.blank_not_mem (by simp)

/-- An attribute is told by its line. -/
theorem line_inj (a b : Attribute) (ha : a.IsLegible) (hb : b.IsLegible) (h : a.line = b.line) :
    a = b := by
  rw [line, line, Line.attr.injEq] at h
  obtain ⟨hname, hvalue⟩ := h
  cases ha with
  | plain hn hne =>
    cases hb with
    | plain =>
      obtain rfl : _ = _ := hname
      obtain rfl : _ = _ := hvalue
      rfl
    | declaration =>
      rw [displayName_unqualified] at hname
      exact absurd hname hne
    | qualified hq' =>
      rw [displayName_qualified (isName_qualifiers _ hq').1] at hname
      exact absurd hname (ne_qualified hn _ _)
  | declaration huri =>
    rw [displayName_unqualified] at hname
    cases hb with
    | plain hn' hne' => exact absurd hname.symm hne'
    | declaration huri' =>
      obtain rfl : _ = _ := hvalue
      rw [huri] at huri'
      obtain rfl := Option.some.inj huri'
      rfl
    | qualified hq' =>
      rw [displayName_qualified (isName_qualifiers _ hq').1] at hname
      exact absurd hname (ne_qualified (isName_qualifiers "xmlns" (by decide)) _ _)
  | qualified hq huri hn =>
    have hqualifier := isName_qualifiers _ hq
    rw [displayName_qualified hqualifier.1] at hname
    cases hb with
    | plain hn' => exact absurd hname.symm (ne_qualified hn' _ _)
    | declaration =>
      rw [displayName_unqualified] at hname
      exact absurd hname.symm (ne_qualified (isName_qualifiers "xmlns" (by decide)) _ _)
    | qualified hq' huri' =>
      have hqualifier' := isName_qualifiers _ hq'
      rw [displayName_qualified hqualifier'.1] at hname
      obtain ⟨rfl, rfl⟩ := qualified_inj hqualifier hqualifier' hname
      obtain rfl : _ = _ := hvalue
      rw [huri] at huri'
      obtain rfl := Option.some.inj huri'
      rfl

theorem isLegible_line {a : Attribute} (h : a.IsLegible) : a.line.IsLegible := by
  obtain ⟨s, hs, hshown⟩ := displayName_of_isLegible h
  rw [line, hs]
  refine ⟨hshown, ?_⟩
  cases h with
  | plain _ _ hvalue => exact hvalue
  | declaration _ hvalue => exact hvalue
  | qualified _ _ _ hvalue => exact hvalue

/-! ## Sorted attributes -/

theorem nameText?_of_isLegible {a : Attribute} (h : a.IsLegible) : (Node.nameText? a).isSome := by
  obtain ⟨s, hs, -⟩ := displayName_of_isLegible h
  rw [Node.nameText?, hs]
  rfl

/-- The lines of the sorted attributes of an element tell them up to their order. -/
theorem perm_of_lines {attrs attrs' : List Attribute} (h : ∀ a ∈ attrs, a.IsLegible)
    (h' : ∀ a ∈ attrs', a.IsLegible)
    (hlines : (attrs.mergeSort Node.nameLE).map line = (attrs'.mergeSort Node.nameLE).map line) :
    attrs.Perm attrs' := by
  have hsorted : attrs.mergeSort Node.nameLE = attrs'.mergeSort Node.nameLE := by
    refine Lists.map_inj_of line_inj ?_ ?_ hlines
    · intro a ha
      exact h a ((List.mergeSort_perm _ _).mem_iff.mp ha)
    · intro a ha
      exact h' a ((List.mergeSort_perm _ _).mem_iff.mp ha)
  have hperm := (List.mergeSort_perm attrs Node.nameLE).symm
  rw [hsorted] at hperm
  exact hperm.trans (List.mergeSort_perm _ _)

end MarkupTree.Attribute
