import MarkupTree.Proofs.Outcome
import MarkupTree.Proofs.Source.Walk
import MarkupTree.Proofs.Value.Parts

/-!
# What is inside a source tree

A walk through a source tree reaches what is inside the value, and objects without fields that stand
for absent contents. Whatever is read at a place is inside the value there.

Results:

* `every_of_mem_walk`: if the keys in a source tree are distinct, so are those at every place.
* `every_field`, `every_payload`, `every_location`: and those in what is read there.
-/

namespace MarkupTree.Source

open Outcome (bind_eq_ok pure_eq_ok)
open Value (HasDistinctKeys every_iff)

variable {v : Value} {fields : List (String × Value)}

theorem every_empty : (Value.obj []).Every HasDistinctKeys :=
  Value.every_distinct_obj.mpr ⟨List.nodup_nil, List.forall_mem_nil _⟩

/-! ## Reading -/

theorem every_fieldsOf (h : v.Every HasDistinctKeys) :
    (Value.obj (fieldsOf v)).Every HasDistinctKeys := by
  cases v with
  | obj fields => exact h
  | _ => exact every_empty

theorem every_field (h : (Value.obj fields).Every HasDistinctKeys) (key : String) :
    (field fields key).Every HasDistinctKeys := by
  rw [field]
  cases hl : fields.lookup key with
  | none => exact Value.every_distinct_null
  | some v => exact h.of_lookup hl

theorem every_payload (h : (Value.obj fields).Every HasDistinctKeys) :
    (payload fields).Every HasDistinctKeys := by
  rw [payload]
  cases hl : fields.lookup "value" with
  | none => exact Value.every_distinct_str ""
  | some v => exact h.of_lookup hl

theorem every_member {w : Value} {key : String} (h : v.Every HasDistinctKeys)
    (hm : member v key = .ok w) : w.Every HasDistinctKeys := by
  cases v with
  | obj fields =>
    obtain rfl := Except.ok.inj hm
    exact every_field h key
  | _ => contradiction

theorem every_location {location : Location} (h : (Value.obj fields).Every HasDistinctKeys)
    (hl : Source.location fields = .ok (some location)) :
    ∀ v ∈ location.parts, v.Every HasDistinctKeys := by
  have hposition := every_field h "position"
  rw [Source.location] at hl
  split at hl
  · cases pure_eq_ok.mp hl
  obtain ⟨start, hs, hl⟩ := bind_eq_ok.mp hl
  obtain ⟨stop, he, hl⟩ := bind_eq_ok.mp hl
  have hstart := every_member hposition hs
  have hstop := every_member hposition he
  split at hl
  · cases pure_eq_ok.mp hl
  obtain ⟨startLine, h₁, hl⟩ := bind_eq_ok.mp hl
  obtain ⟨startColumn, h₂, hl⟩ := bind_eq_ok.mp hl
  obtain ⟨startOffset, h₃, hl⟩ := bind_eq_ok.mp hl
  obtain ⟨endLine, h₄, hl⟩ := bind_eq_ok.mp hl
  obtain ⟨endColumn, h₅, hl⟩ := bind_eq_ok.mp hl
  obtain ⟨endOffset, h₆, hl⟩ := bind_eq_ok.mp hl
  obtain rfl := Option.some.inj (pure_eq_ok.mp hl)
  simp only [Location.parts, List.forall_mem_cons]
  exact ⟨every_member hstart h₁, every_member hstart h₂, every_member hstart h₃,
    every_member hstop h₄, every_member hstop h₅, every_member hstop h₆, List.forall_mem_nil _⟩

/-! ## Walking -/

namespace Place

theorem every_of_mem_parts {place part : Place} (h : place.value.Every HasDistinctKeys)
    (hp : part ∈ place.parts) : part.value.Every HasDistinctKeys := by
  have hfields := every_fieldsOf h
  rcases List.mem_append.mp hp with hp | hp
  · rw [children] at hp
    split at hp
    · obtain ⟨item, hi, rfl⟩ := List.mem_map.mp hp
      have hlist := every_field hfields "children"
      cases hv : field (fieldsOf place.value) "children" with
      | arr items =>
        rw [fields, hv] at hi
        rw [hv] at hlist
        exact (every_iff.mp hlist).2 item hi
      | _ =>
        rw [fields, hv] at hi
        exact absurd hi List.not_mem_nil
    · exact absurd hp List.not_mem_nil
  · rw [Option.mem_toList, content] at hp
    split at hp
    · obtain rfl := Option.some.inj hp
      show (orEmpty _).Every _
      rw [orEmpty]
      split
      · exact every_field hfields "content"
      · exact every_empty
    · contradiction

/-- If the keys in a source tree are distinct, so are those at every place of it. -/
theorem every_of_mem_walk {place place' : Place} (h : place.value.Every HasDistinctKeys)
    (hw : place' ∈ place.walk) : place'.value.Every HasDistinctKeys := by
  induction place using Place.induction with
  | step place ih =>
    rw [walk_eq] at hw
    rcases List.mem_cons.mp hw with rfl | hw
    · exact h
    · obtain ⟨part, hp, hw⟩ := List.mem_flatMap.mp hw
      exact ih part hp (every_of_mem_parts h hp) hw

end Place

end MarkupTree.Source
