import MarkupTree.Fields
import MarkupTree.Value.Basic

/-!
# What is inside a value

A list holds its items and an object the values of its fields. A property of values may be asked of
a value with everything inside it.

Results:

* `every_iff`: such a property holds of the value itself and of everything right inside it.
* `Every.of_lookup`: it holds of what is found in the fields of an object.
* `every_str`, `every_arr`, `every_obj`: values of each kind.
-/

namespace MarkupTree.Value

/-- What is right inside a value, in order. -/
def parts : Value → List Value
  | arr items => items
  | obj fields => fields.map Prod.snd
  | _ => []

/-- Whether a value and everything inside it have a property. -/
inductive Every (p : Value → Prop) : Value → Prop
  | mk {v : Value} (here : p v) (below : ∀ part ∈ v.parts, Every p part) : Every p v

variable {p q : Value → Prop} {v : Value}

theorem every_iff : Every p v ↔ p v ∧ ∀ part ∈ v.parts, Every p part := by
  constructor
  · rintro ⟨here, below⟩
    exact ⟨here, below⟩
  · rintro ⟨here, below⟩
    exact ⟨here, below⟩

theorem Every.imp (h : ∀ v, p v → q v) (hp : Every p v) : Every q v := by
  induction hp with
  | mk here below ih => exact ⟨h _ here, ih⟩

theorem Every.and (hp : Every p v) (hq : Every q v) : Every (fun v => p v ∧ q v) v := by
  induction hp with
  | mk here below ih =>
    obtain ⟨here', below'⟩ := hq
    exact ⟨⟨here, here'⟩, fun part h => ih part h (below' part h)⟩

/-- What is found in the fields of an object is inside of it. -/
theorem mem_parts_of_lookup {fields : List (String × Value)} {key : String}
    (h : fields.lookup key = some v) : v ∈ (obj fields).parts := by
  obtain ⟨l, r, rfl, -⟩ := List.lookup_eq_some_iff.mp h
  simp [parts]

theorem Every.of_lookup {fields : List (String × Value)} {key : String}
    (h : Every p (obj fields)) (hl : fields.lookup key = some v) : v.Every p :=
  (every_iff.mp h).2 v (mem_parts_of_lookup hl)

theorem every_of_parts_eq_nil (h : v.parts = []) : Every p v ↔ p v := by
  rw [every_iff, h]
  exact and_iff_left (List.forall_mem_nil _)

@[simp] theorem every_null : null.Every p ↔ p null := every_of_parts_eq_nil rfl

@[simp] theorem every_bool (b : Bool) : (bool b).Every p ↔ p (bool b) := every_of_parts_eq_nil rfl

@[simp] theorem every_int (n : Text.Integer) : (int n).Every p ↔ p (int n) :=
  every_of_parts_eq_nil rfl

@[simp] theorem every_float (x : Float) : (float x).Every p ↔ p (float x) :=
  every_of_parts_eq_nil rfl

@[simp] theorem every_str (s : String) : (str s).Every p ↔ p (str s) := every_of_parts_eq_nil rfl

@[simp] theorem every_arr (items : List Value) :
    (arr items).Every p ↔ p (arr items) ∧ ∀ item ∈ items, item.Every p :=
  every_iff

@[simp] theorem every_obj (fields : List (String × Value)) :
    (obj fields).Every p ↔ p (obj fields) ∧ ∀ field ∈ fields, field.2.Every p := by
  rw [every_iff, parts, List.forall_mem_map]

/-! ## Values as they are read -/

/-- Whether the keys of the value are distinct, if it is an object. -/
@[simp] def HasDistinctKeys : Value → Prop
  | obj fields => (Fields.keys fields).Nodup
  | _ => True

/-- Whether the value is no floating-point number. -/
@[simp] def IsNoFloat : Value → Prop
  | float _ => False
  | _ => True

theorem every_distinct_str (s : String) : (str s).Every HasDistinctKeys :=
  (every_str s).mpr trivial

theorem every_distinct_null : null.Every HasDistinctKeys := every_null.mpr trivial

theorem every_distinct_arr {items : List Value} :
    (arr items).Every HasDistinctKeys ↔ ∀ item ∈ items, item.Every HasDistinctKeys := by
  rw [every_arr]
  exact and_iff_right trivial

theorem every_distinct_obj {fields : List (String × Value)} :
    (obj fields).Every HasDistinctKeys ↔
      (Fields.keys fields).Nodup ∧ ∀ field ∈ fields, field.2.Every HasDistinctKeys :=
  every_obj fields

end MarkupTree.Value
