import Mathlib.Data.List.Nodup
import MarkupTree.Node.Dump
import MarkupTree.Proofs.Sorting.Adaptive

/-!
# Sorted attributes

Values that are texts always come in an order, so a list with texts as keys is sorted, and stably.
The attributes of a dump are such a list if they are all shown under texts.

Results:

* `Value.sortOn_of_texts`: a list is sorted by texts.
* `Node.sortAttributes_of_texts`: attributes are sorted by the names under which they are shown.
* `Attribute.isStableSort_mergeSort`: the names are in order, and the sort is stable.
* `Attribute.sortAttributes_eq_of_perm`: reordered attributes are sorted alike.
-/

namespace MarkupTree

open Sorting (IsOrder Tells)

/-! ## Texts as keys -/

namespace Value

variable {α : Type} {key : α → Value}

/-- Whether a key does not come after another, where keys are texts. -/
def keyLE (key : α → Value) (a b : α) : Bool := decide ((key a).display ≤ (key b).display)

theorem keyLE_iff {a b : α} : keyLE key a b = true ↔ (key a).display ≤ (key b).display :=
  decide_eq_true_iff

theorem isOrder_keyLE (key : α → Value) : IsOrder (keyLE key) where
  trans a b c hab hbc := keyLE_iff.mpr (String.le_trans (keyLE_iff.mp hab) (keyLE_iff.mp hbc))
  total a b := by
    rw [Bool.or_eq_true, keyLE_iff, keyLE_iff]
    exact String.le_total _ _

theorem tells_keyLE (key : α → Value) :
    Tells (fun a b => before (key a) (key b)) (keyLE key) fun a => ∃ s, key a = .str s where
  toIsOrder := isOrder_keyLE key
  before_eq a b := by
    rintro ⟨s, hs⟩ ⟨t, ht⟩
    rw [keyLE, hs, ht, before_str]
    congr 1
    rw [← decide_not]
    exact decide_eq_decide.mpr String.not_le.symm

/-- A list is sorted by texts. -/
theorem sortOn_of_texts {items : List α} (h : ∀ x ∈ items, ∃ s, key x = .str s) :
    sortOn key items = .ok (items.mergeSort (keyLE key)) :=
  Sorting.sort_eq (tells_keyLE key) h

end Value

/-! ## Attributes -/

namespace Node

/-- The name of an attribute for sorting, if it is a text. -/
def nameText? (a : Attribute) : Option String :=
  match a.displayName with
  | .str s => some s
  | _ => none

/-- Whether the name of an attribute does not come after that of another. -/
def nameLE (a b : Attribute) : Bool := decide (a.displayName.display ≤ b.displayName.display)

theorem displayName_of_nameText? {a : Attribute} (h : (nameText? a).isSome) :
    a.displayName = .str a.displayName.display := by
  rw [nameText?] at h
  split at h
  · rename_i s hs
    rw [hs]
    rfl
  · contradiction

/-- Attributes that are shown under texts are sorted by them. -/
theorem sortAttributes_of_texts {attrs : List Attribute} (h : ∀ a ∈ attrs, (nameText? a).isSome) :
    sortAttributes attrs = .ok (attrs.mergeSort nameLE) :=
  Value.sortOn_of_texts fun a ha => ⟨_, displayName_of_nameText? (h a ha)⟩

end Node

namespace Attribute

open Node (nameText? nameLE sortAttributes)

theorem isOrder_nameLE : IsOrder nameLE := Value.isOrder_keyLE displayName

theorem tied_nameLE (a b : Attribute) :
    Sorting.tied nameLE a b = (b.displayName.display == a.displayName.display) := by
  rw [Bool.eq_iff_iff, Sorting.tied_iff, nameLE, nameLE, decide_eq_true_iff, decide_eq_true_iff,
    beq_iff_eq]
  constructor
  · exact fun h => String.le_antisymm h.2 h.1
  · intro h
    rw [h]
    exact ⟨String.le_refl _, String.le_refl _⟩

/-- Whether a list holds the same attributes as another, in the order of the names under which they
are shown, and where these are the same in the order of the other list. -/
structure IsStableSort (sorted attrs : List Attribute) : Prop where
  perm : sorted.Perm attrs
  names : sorted.Pairwise fun a b => a.displayName.display ≤ b.displayName.display
  ties : ∀ name, (sorted.filter fun a => a.displayName.display == name) =
    attrs.filter fun a => a.displayName.display == name

theorem isStableSort_mergeSort (attrs : List Attribute) :
    IsStableSort (attrs.mergeSort nameLE) attrs where
  perm := List.mergeSort_perm attrs nameLE
  names := (List.pairwise_mergeSort isOrder_nameLE.trans isOrder_nameLE.total attrs).imp
    of_decide_eq_true
  ties name := by
    -- The attributes of a name are those that are tied with one of this name.
    let named : Attribute := { name := .str name, value := .null }
    have htied : Sorting.tied nameLE named = fun a => a.displayName.display == name :=
      funext (tied_nameLE named)
    have hties := Sorting.similar_mergeSort isOrder_nameLE attrs named
    rwa [htied] at hties

/-- Reordered attributes with different names, all of which are texts, are sorted alike. -/
theorem sortAttributes_eq_of_perm {attrs attrs' : List Attribute} (hp : attrs.Perm attrs')
    (htext : ∀ a ∈ attrs, (nameText? a).isSome) (hnodup : (attrs.map displayName).Nodup) :
    sortAttributes attrs = sortAttributes attrs' := by
  have htext' : ∀ a ∈ attrs', (nameText? a).isSome := fun a ha => htext a (hp.mem_iff.mpr ha)
  have hmerge := List.mergeSort_perm attrs nameLE
  have hmerge' := (List.mergeSort_perm attrs' nameLE).trans hp.symm
  have hpairwise := List.pairwise_mergeSort isOrder_nameLE.trans isOrder_nameLE.total
  rw [Node.sortAttributes_of_texts htext, Node.sortAttributes_of_texts htext']
  congr 1
  refine List.Perm.eq_of_pairwise ?_ (hpairwise attrs) (hpairwise attrs')
    (hmerge.trans hmerge'.symm)
  intro a b ha hb hab hba
  have hmem := hmerge.mem_iff.mp ha
  have hmem' := hmerge'.mem_iff.mp hb
  refine List.inj_on_of_nodup_map hnodup hmem hmem' ?_
  rw [Node.displayName_of_nameText? (htext a hmem), Node.displayName_of_nameText? (htext b hmem'),
    String.le_antisymm (of_decide_eq_true hab) (of_decide_eq_true hba)]

end Attribute

end MarkupTree
