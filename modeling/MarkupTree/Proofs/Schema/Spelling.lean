import Mathlib.Data.List.Nodup
import MarkupTree.Proofs.Schema.Building
import MarkupTree.Proofs.Text.Ascii
import MarkupTree.Schema.Standard

/-!
# Tables without a collision

An attribute is called like its property, up to letter case, or a pair of spellings gives its name.
If all property names and all attribute names of such pairs differ in their lower forms, no name is
that of two infos. The spellings of a table come with the way in which it makes attribute names.

Results:

* `unambiguous_of_nodup`: distinct lower forms are enough.
* `spelledBy_replaceStart`, `spelledBy_caseInsensitive`, `spelledBy_caseSensitive`: the spellings of
  a table.
* `nodup_of_distinct`: a search tree shows with few comparisons that they are distinct.
-/

namespace MarkupTree.Schema

/-! ## Spellings -/

/-- Whether the attribute is called like the property, up to letter case, or is its partner in one
of the pairs. -/
def Info.SpelledBy (pairs : List (List Nat × List Nat)) (info : Info) : Prop :=
  Text.lowerCodes info.attributeName = Text.lowerCodes info.propertyName ∨
    (Text.lowerCodes info.propertyName, Text.lowerCodes info.attributeName) ∈ pairs

/-- The attribute names in pairs that differ by more than letter case. -/
def respelled (pairs : List (List Nat × List Nat)) : List (List Nat) :=
  (pairs.filter fun pair => pair.1 != pair.2).map Prod.snd

theorem Info.SpelledBy.flatten {pairs : List (List Nat × List Nat)} {info : Info}
    (h : info.SpelledBy pairs) {tables : List (List (List Nat × List Nat))}
    (ht : pairs ∈ tables) : info.SpelledBy tables.flatten :=
  h.imp_right fun hmem => List.mem_flatten.mpr ⟨pairs, ht, hmem⟩

theorem Info.SpelledBy.mem_filter {pairs : List (List Nat × List Nat)} {info : Info}
    (h : info.SpelledBy pairs)
    (hne : Text.lowerCodes info.attributeName ≠ Text.lowerCodes info.propertyName) :
    (Text.lowerCodes info.propertyName, Text.lowerCodes info.attributeName) ∈
      pairs.filter fun pair => pair.1 != pair.2 := by
  rcases h with h | h
  · exact absurd h hne
  · exact List.mem_filter.mpr ⟨h, bne_iff_ne.mpr (Ne.symm hne)⟩

/-- An attribute name is one of the property names or of the respelled ones. -/
theorem Info.SpelledBy.mem_names {pairs : List (List Nat × List Nat)} {infos : List Info}
    {info : Info} (hi : info ∈ infos) (h : info.SpelledBy pairs) :
    Text.lowerCodes info.attributeName ∈
      infos.map (fun info => Text.lowerCodes info.propertyName) ++ respelled pairs := by
  rw [List.mem_append]
  by_cases hne : Text.lowerCodes info.attributeName = Text.lowerCodes info.propertyName
  · exact Or.inl (List.mem_map.mpr ⟨info, hi, hne.symm⟩)
  · exact Or.inr (List.mem_map_of_mem (h.mem_filter hne))

theorem unambiguous_of_nodup {infos : List Info} {pairs : List (List Nat × List Nat)}
    (hd : (infos.map (fun info => Text.lowerCodes info.propertyName) ++ respelled pairs).Nodup)
    (hs : ∀ info ∈ infos, info.SpelledBy pairs) : Unambiguous infos := by
  obtain ⟨hinfos, hpairs, hdisj⟩ := List.nodup_append.mp hd
  have hprop : ∀ i ∈ infos, ∀ j ∈ infos,
      Text.lowerCodes i.propertyName = Text.lowerCodes j.propertyName → i = j := by
    intro i hi j hj h
    exact List.inj_on_of_nodup_map hinfos hi hj h
  -- an attribute name that is spelled in its own way is no property name
  have hcross : ∀ i ∈ infos, ∀ j ∈ infos,
      Text.lowerCodes i.propertyName = Text.lowerCodes j.attributeName → i = j := by
    intro i hi j hj h
    by_cases hne : Text.lowerCodes j.attributeName = Text.lowerCodes j.propertyName
    · exact hprop i hi j hj (h.trans hne)
    · have hmem := List.mem_map_of_mem (f := Prod.snd) ((hs j hj).mem_filter hne)
      exact absurd h (hdisj _ (List.mem_map_of_mem hi) _ hmem)
  have hattr : ∀ i ∈ infos, ∀ j ∈ infos,
      Text.lowerCodes i.attributeName = Text.lowerCodes j.attributeName → i = j := by
    intro i hi j hj h
    by_cases hne : Text.lowerCodes i.attributeName = Text.lowerCodes i.propertyName
    · exact hcross i hi j hj (hne.symm.trans h)
    by_cases hne' : Text.lowerCodes j.attributeName = Text.lowerCodes j.propertyName
    · exact (hcross j hj i hi (hne'.symm.trans h.symm)).symm
    have hpair := List.inj_on_of_nodup_map hpairs ((hs i hi).mem_filter hne)
      ((hs j hj).mem_filter hne') h
    rw [Prod.mk.injEq] at hpair
    exact hprop i hi j hj hpair.1
  intro i hi j hj name hni hnj
  rw [Info.answersTo_iff] at hni hnj
  rcases hni with rfl | rfl <;> rcases hnj with h | h <;> rw [Text.lower_eq_iff] at h
  · exact hprop i hi j hj h
  · exact hcross i hi j hj h
  · exact (hcross j hj i hi h.symm).symm
  · exact hattr i hi j hj h

/-! ## The spellings of a table -/

/-- The spellings of a table whose attribute names have another start. -/
def startPairs (start : String) (n : Nat) (properties : List (String × List Trait)) :
    List (List Nat × List Nat) :=
  properties.map fun entry =>
    (Text.foldedBytes entry.1, Text.foldedBytes start ++ (Text.foldedBytes entry.1).drop n)

/-- The spellings that a table of attribute names gives. -/
def attributePairs (attributes : List (String × String)) : List (List Nat × List Nat) :=
  attributes.map fun pair => (Text.foldedBytes pair.1, Text.foldedBytes pair.2)

theorem lowerCodes_replaceStart {start name : String} (hs : Text.isAscii start = true)
    (hn : Text.isAscii name = true) (n : Nat) :
    Text.lowerCodes (replaceStart start n name) =
      Text.foldedBytes start ++ (Text.foldedBytes name).drop n := by
  obtain ⟨he, hlt⟩ := Text.toNat_toList hn
  rw [replaceStart, Text.lowerCodes_append_lower hs fun c hc => hlt c (List.mem_of_mem_drop hc),
    Text.foldedBytes, Text.foldedBytes, ← he, List.map_map, ← List.map_drop]
  rfl

variable {properties : List (String × List Trait)} {space : Option String} {info : Info}

theorem spelledBy_replaceStart {start : String} (hs : Text.isAscii start = true) {n : Nat}
    (hi : info ∈ tableInfos properties (replaceStart start n) space)
    (hn : Text.isAscii info.propertyName = true) :
    info.SpelledBy (startPairs start n properties) := by
  obtain ⟨⟨name, traits⟩, hmem, rfl⟩ := List.mem_map.mp hi
  refine Or.inr (List.mem_map.mpr ⟨_, hmem, ?_⟩)
  rw [lowerCodes_replaceStart hs hn, Text.lowerCodes_of_ascii hn]

/-- A property that keeps its name needs no pair. -/
theorem spelledBy_ariaAttribute (hi : info ∈ tableInfos properties ariaAttribute space)
    (hn : Text.isAscii info.propertyName = true) :
    info.SpelledBy (startPairs "aria-" 4 properties) := by
  obtain ⟨⟨name, traits⟩, hmem, rfl⟩ := List.mem_map.mp hi
  by_cases hr : name = "role"
  · refine Or.inl ?_
    simp only [ariaAttribute, hr, if_true]
  · refine Or.inr (List.mem_map.mpr ⟨_, hmem, ?_⟩)
    simp only [ariaAttribute, hr, if_false]
    rw [lowerCodes_replaceStart (by decide) hn, Text.lowerCodes_of_ascii hn]

theorem spelledBy_caseInsensitive {attributes : List (String × String)}
    (ha : ∀ pair ∈ attributes, Text.isAscii pair.1 = true ∧ Text.isAscii pair.2 = true)
    (hi : info ∈ tableInfos properties (caseInsensitive attributes) space)
    (hn : Text.isAscii info.propertyName = true) :
    info.SpelledBy (attributePairs attributes) := by
  obtain ⟨⟨name, traits⟩, hmem, rfl⟩ := List.mem_map.mp hi
  cases hl : attributes.lookup (Text.lower name) with
  | none =>
    refine Or.inl ?_
    simp only [caseInsensitive, hl, Option.getD_none]
    rw [Text.lowerCodes_lower hn, Text.lowerCodes_of_ascii hn]
  | some partner =>
    have hpair := Fields.mem_of_lookup_eq_some hl
    obtain ⟨hk, hv⟩ := ha _ hpair
    refine Or.inr (List.mem_map.mpr ⟨_, hpair, ?_⟩)
    simp only [caseInsensitive, hl, Option.getD_some]
    rw [← Text.lowerCodes_of_ascii hk, ← Text.lowerCodes_of_ascii hv, Text.lowerCodes_lower hn,
      Text.lowerCodes_of_ascii hn]

theorem spelledBy_caseSensitive {attributes : List (String × String)} {handlers : List String}
    (ha : ∀ pair ∈ attributes, Text.isAscii pair.1 = true ∧ Text.isAscii pair.2 = true)
    (hh : ∀ name ∈ handlers, Text.isAscii name = true)
    (hi : info ∈ tableInfos properties
      (caseSensitive (attributes ++ handlers.map fun name => (name, Text.lower name))) space) :
    info.SpelledBy (attributePairs attributes) := by
  obtain ⟨⟨name, traits⟩, hmem, rfl⟩ := List.mem_map.mp hi
  cases hl : (attributes ++ handlers.map fun name => (name, Text.lower name)).lookup name with
  | none =>
    refine Or.inl ?_
    simp only [caseSensitive, hl, Option.getD_none]
  | some partner =>
    simp only [caseSensitive, hl, Option.getD_some]
    rcases List.mem_append.mp (Fields.mem_of_lookup_eq_some hl) with hpair | hpair
    · obtain ⟨hk, hv⟩ := ha _ hpair
      refine Or.inr (List.mem_map.mpr ⟨_, hpair, ?_⟩)
      rw [← Text.lowerCodes_of_ascii hk, ← Text.lowerCodes_of_ascii hv]
    · obtain ⟨handler, hmem', he⟩ := List.mem_map.mp hpair
      rw [Prod.mk.injEq] at he
      obtain ⟨rfl, rfl⟩ := he
      have hn := hh _ hmem'
      exact Or.inl (by rw [Text.lowerCodes_lower hn, Text.lowerCodes_of_ascii hn])

/-! ## Comparing by numbers -/

/-- A number for a list of bytes. -/
def packed (bytes : List Nat) : Nat := bytes.foldr (fun b n => n * 256 + b + 1) 0

/-- Numbers in a search tree. -/
inductive SearchTree where
  | leaf
  | node (number : Nat) (below above : SearchTree)

namespace SearchTree

/-- Whether the search for a number ends at it. -/
def has (n : Nat) : SearchTree → Bool
  | leaf => false
  | node m below above => if n = m then true else if n < m then has n below else has n above

/-- Adds a number that is not there. -/
def insert? (n : Nat) : SearchTree → Option SearchTree
  | leaf => some (node n leaf leaf)
  | node m below above =>
    if n = m then none
    else if n < m then (insert? n below).map fun tree => node m tree above
    else (insert? n above).map fun tree => node m below tree

/-- Adds numbers one after another. -/
def insertAll? : List Nat → SearchTree → Option SearchTree
  | [], tree => some tree
  | n :: ns, tree => (insert? n tree).bind (insertAll? ns)

/-- Searching does not need the tree to be in order: a number is looked for where it was put. -/
theorem has_of_insert? {n : Nat} {tree tree' : SearchTree} (h : insert? n tree = some tree') :
    has n tree = false ∧ ∀ m, has m tree' = (decide (m = n) || has m tree) := by
  induction tree generalizing tree' with
  | leaf =>
    cases h
    refine ⟨rfl, fun m => ?_⟩
    by_cases hm : m = n <;> simp [has, hm]
  | node k below above ihb iha =>
    rw [insert?] at h
    split_ifs at h with he hlt
    · obtain ⟨t, ht, rfl⟩ := Option.map_eq_some_iff.mp h
      obtain ⟨hn, hm⟩ := ihb ht
      refine ⟨by simp [has, he, hlt, hn], fun m => ?_⟩
      rw [has, has, hm]
      split_ifs <;> grind
    · obtain ⟨t, ht, rfl⟩ := Option.map_eq_some_iff.mp h
      obtain ⟨hn, hm⟩ := iha ht
      refine ⟨by simp [has, he, hlt, hn], fun m => ?_⟩
      rw [has, has, hm]
      split_ifs <;> grind

theorem nodup_of_insertAll? {ns : List Nat} {tree : SearchTree}
    (h : (insertAll? ns tree).isSome = true) : ns.Nodup ∧ ∀ n ∈ ns, has n tree = false := by
  induction ns generalizing tree with
  | nil => exact ⟨List.nodup_nil, fun n hn => absurd hn List.not_mem_nil⟩
  | cons n ns ih =>
    cases hi : insert? n tree with
    | none => simp [insertAll?, hi] at h
    | some tree' =>
      rw [insertAll?, hi, Option.bind_some] at h
      obtain ⟨hn, hm⟩ := has_of_insert? hi
      obtain ⟨hd, hns⟩ := ih h
      have hne : ∀ m ∈ ns, m ≠ n ∧ has m tree = false := by
        intro m hmem
        have := hns m hmem
        rw [hm] at this
        simpa using this
      refine ⟨List.nodup_cons.mpr ⟨fun hmem => (hne n hmem).1 rfl, hd⟩, ?_⟩
      intro m hmem
      rcases List.mem_cons.mp hmem with rfl | hmem
      · exact hn
      · exact (hne m hmem).2

end SearchTree

/-- Whether all lists of bytes differ. -/
def distinct (codes : List (List Nat)) : Bool :=
  (SearchTree.insertAll? (codes.map packed) .leaf).isSome

theorem nodup_of_distinct {codes : List (List Nat)} (h : distinct codes = true) : codes.Nodup :=
  (SearchTree.nodup_of_insertAll? h).1.of_map

end MarkupTree.Schema
