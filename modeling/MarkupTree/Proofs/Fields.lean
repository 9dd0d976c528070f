import Mathlib.Data.List.Induction
import Mathlib.Data.List.Nodup
import MarkupTree.Fields

/-!
# Sequences of writes

What a sequence of writes leaves is determined by two views: the keys in order, and what is found
under each key.

Results:

* `keys_ofPairs`, `lookup_ofPairs`: keys stand where they were first written and hold what was
  written last.
* `lookup_update`: fields that are written into others hide them.
* `ofPairs_eq_self`: writes to distinct keys leave the pairs as they came.
* `eq_filterMap_keys`: fields with distinct keys are given by the two views.
-/

namespace MarkupTree.Fields

variable {α : Type}

/-! ## One write and one look-up -/

theorem lookup_set (k k' : String) (v : α) (fields : List (String × α)) :
    (set k v fields).lookup k' = if k' = k then some v else fields.lookup k' := by
  by_cases h : k' = k
  · subst h
    rw [lookup_set_self, if_pos rfl]
  · rw [lookup_set_of_ne h, if_neg h]

theorem nodup_keys_set {fields : List (String × α)} (h : (keys fields).Nodup) (k : String) (v : α) :
    (keys (set k v fields)).Nodup := by
  by_cases hk : k ∈ keys fields
  · rw [keys_set_of_mem hk]
    exact h
  · rw [keys_set_of_not_mem hk, List.nodup_append]
    refine ⟨h, List.nodup_singleton k, ?_⟩
    intro a ha b hb
    rw [List.mem_singleton] at hb
    subst hb
    rintro rfl
    exact hk ha

theorem mem_of_lookup_eq_some {k : String} {v : α} {fields : List (String × α)}
    (h : fields.lookup k = some v) : (k, v) ∈ fields := by
  obtain ⟨l, r, rfl, -⟩ := List.lookup_eq_some_iff.mp h
  simp

theorem lookup_eq_none {fields : List (String × α)} {k : String} :
    fields.lookup k = none ↔ k ∉ keys fields := by
  induction fields with
  | nil => simp
  | cons pair rest ih =>
    obtain ⟨key, v⟩ := pair
    by_cases hk : k = key
    · subst hk
      simp
    · simp [List.lookup_cons, beq_eq_false_iff_ne.mpr hk, ih, hk]

theorem lookup_eq_some_of_mem {fields : List (String × α)} (h : (keys fields).Nodup) {k : String}
    {v : α} (hm : (k, v) ∈ fields) : fields.lookup k = some v := by
  cases hl : fields.lookup k with
  | none =>
    have hk : k ∉ keys fields := lookup_eq_none.mp hl
    exact absurd (List.mem_map_of_mem hm) hk
  | some w =>
    have hpair : (k, w) = (k, v) := List.inj_on_of_nodup_map h (mem_of_lookup_eq_some hl) hm rfl
    rw [(Prod.mk.inj hpair).2]

/-! ## Many writes -/

theorem update_cons (fields : List (String × α)) (k : String) (v : α) (pairs : List (String × α)) :
    update fields ((k, v) :: pairs) = update (set k v fields) pairs := rfl

theorem ofPairs_concat (pairs : List (String × α)) (k : String) (v : α) :
    ofPairs (pairs ++ [(k, v)]) = set k v (ofPairs pairs) := by
  rw [ofPairs, ofPairs, update, update, List.foldl_append]
  rfl

theorem nodup_keys_update {fields : List (String × α)} (h : (keys fields).Nodup)
    (pairs : List (String × α)) : (keys (update fields pairs)).Nodup := by
  induction pairs generalizing fields with
  | nil => exact h
  | cons pair rest ih => exact ih (nodup_keys_set h pair.1 pair.2)

theorem lookup_update {pairs : List (String × α)} (h : (keys pairs).Nodup)
    (fields : List (String × α)) (k : String) :
    (update fields pairs).lookup k = (pairs.lookup k).or (fields.lookup k) := by
  induction pairs generalizing fields with
  | nil => rfl
  | cons pair rest ih =>
    obtain ⟨key, v⟩ := pair
    rw [keys_cons, List.nodup_cons] at h
    rw [update_cons, ih h.2, lookup_set, List.lookup_cons]
    by_cases hk : k = key
    · subst hk
      rw [lookup_eq_none.mpr h.1]
      simp
    · simp [hk, beq_eq_false_iff_ne.mpr hk]

/-- What was written last under a key is found there. -/
theorem lookup_ofPairs (pairs : List (String × α)) (k : String) :
    (ofPairs pairs).lookup k = pairs.reverse.lookup k := by
  induction pairs using List.reverseRecOn with
  | nil => rfl
  | append_singleton pairs pair ih =>
    obtain ⟨key, v⟩ := pair
    rw [ofPairs_concat, lookup_set, ih, List.reverse_append, List.reverse_singleton,
      List.singleton_append, List.lookup_cons]
    by_cases hk : k = key
    · simp [hk]
    · simp [hk, beq_eq_false_iff_ne.mpr hk]

/-- A key stands where it was first written. -/
theorem keys_ofPairs (pairs : List (String × α)) : keys (ofPairs pairs) = (keys pairs).eraseDups := by
  induction pairs using List.reverseRecOn with
  | nil => rfl
  | append_singleton pairs pair ih =>
    obtain ⟨key, v⟩ := pair
    have hmem : key ∈ keys (ofPairs pairs) ↔ key ∈ keys pairs := by rw [ih, List.mem_eraseDups]
    have hkeys : keys (pairs ++ [(key, v)]) = keys pairs ++ [key] := by simp [keys]
    rw [ofPairs_concat, hkeys, List.eraseDups_append]
    by_cases hk : key ∈ keys pairs
    · rw [keys_set_of_mem (hmem.mpr hk), ih]
      simp [List.removeAll, hk]
    · rw [keys_set_of_not_mem (fun h => hk (hmem.mp h)), ih]
      simp [List.removeAll, hk, List.eraseDups_cons]

theorem nodup_keys_ofPairs (pairs : List (String × α)) : (keys (ofPairs pairs)).Nodup := by
  apply nodup_keys_update
  exact List.nodup_nil

theorem set_of_not_mem {k : String} {fields : List (String × α)} (h : k ∉ keys fields) (v : α) :
    set k v fields = fields ++ [(k, v)] := by
  induction fields with
  | nil => rfl
  | cons pair rest ih =>
    obtain ⟨key, old⟩ := pair
    rw [keys_cons, List.mem_cons, not_or] at h
    rw [set, if_neg (Ne.symm h.1), ih h.2, List.cons_append]

/-- Writes to distinct keys leave the pairs as they came. -/
theorem ofPairs_eq_self {pairs : List (String × α)} (h : (keys pairs).Nodup) :
    ofPairs pairs = pairs := by
  induction pairs using List.reverseRecOn with
  | nil => rfl
  | append_singleton pairs pair ih =>
    obtain ⟨key, v⟩ := pair
    have hkeys : keys (pairs ++ [(key, v)]) = keys pairs ++ [key] := by simp [keys]
    rw [hkeys, List.nodup_append] at h
    have hnew : key ∉ keys pairs := fun hk => h.2.2 key hk key List.mem_cons_self rfl
    rw [ofPairs_concat, ih h.1, set_of_not_mem hnew]

theorem eq_filterMap_keys {fields : List (String × α)} (h : (keys fields).Nodup) :
    fields = (keys fields).filterMap fun k => (fields.lookup k).map (k, ·) := by
  induction fields with
  | nil => rfl
  | cons pair rest ih =>
    obtain ⟨key, v⟩ := pair
    rw [keys_cons, List.nodup_cons] at h
    rw [keys_cons, List.filterMap_cons_some (b := (key, v)) (by simp)]
    congr 1
    conv_lhs => rw [ih h.2]
    apply List.filterMap_congr
    intro k hk
    have hne : k ≠ key := by
      rintro rfl
      exact h.1 hk
    rw [List.lookup_cons, beq_eq_false_iff_ne.mpr hne]

end MarkupTree.Fields
