/-!
# Ordered fields

An object, a table of names and a list of attributes under construction are lists of pairs. The
order of the pairs is the order in which their keys first arrived.

Results:

* `lookup_set_self`, `lookup_set_of_ne`: what is found after a write.
* `keys_set_of_mem`, `keys_set_of_not_mem`: a write to a present key moves nothing, and a new key
  goes to the end.
-/

namespace MarkupTree.Fields

variable {α : Type}

/-- The keys in order. -/
def keys (fields : List (String × α)) : List String := fields.map Prod.fst

/-- Writes `v` at the place of key `k`, or adds the pair at the end. -/
def set (k : String) (v : α) : List (String × α) → List (String × α)
  | [] => [(k, v)]
  | (key, old) :: rest => if key = k then (key, v) :: rest else (key, old) :: set k v rest

/-- Writes every pair of the second list into the first. -/
def update (fields : List (String × α)) (pairs : List (String × α)) : List (String × α) :=
  pairs.foldl (fun acc pair => set pair.1 pair.2 acc) fields

/-- The fields that a sequence of writes leaves. -/
def ofPairs (pairs : List (String × α)) : List (String × α) := update [] pairs

/-- The pairs whose key is not `k`. -/
def erase (k : String) (fields : List (String × α)) : List (String × α) :=
  fields.filter (·.1 != k)

/-! ## Reading after writing -/

@[simp] theorem keys_nil : keys ([] : List (String × α)) = [] := rfl

@[simp] theorem keys_cons (k : String) (v : α) (rest : List (String × α)) :
    keys ((k, v) :: rest) = k :: keys rest := rfl

@[simp] theorem lookup_set_self (k : String) (v : α) (fields : List (String × α)) :
    (set k v fields).lookup k = some v := by
  induction fields with
  | nil => simp [set]
  | cons pair rest ih =>
    obtain ⟨key, old⟩ := pair
    by_cases h : key = k
    · simp [set, h]
    · simp [set, h, List.lookup_cons, ih, beq_eq_false_iff_ne.mpr (Ne.symm h)]

theorem lookup_set_of_ne {k k' : String} (h : k' ≠ k) (v : α) (fields : List (String × α)) :
    (set k v fields).lookup k' = fields.lookup k' := by
  induction fields with
  | nil => simp [set, List.lookup_cons, beq_eq_false_iff_ne.mpr h]
  | cons pair rest ih =>
    obtain ⟨key, old⟩ := pair
    by_cases hk : key = k
    · subst hk
      simp [set, List.lookup_cons, beq_eq_false_iff_ne.mpr h]
    · simp [set, hk, List.lookup_cons, ih]

theorem keys_set_of_mem {k : String} {fields : List (String × α)} (h : k ∈ keys fields) (v : α) :
    keys (set k v fields) = keys fields := by
  induction fields with
  | nil => simp at h
  | cons pair rest ih =>
    obtain ⟨key, old⟩ := pair
    by_cases hk : key = k
    · simp [set, hk]
    · have : k ∈ keys rest := by simpa [Ne.symm hk] using h
      simp [set, hk, ih this]

theorem keys_set_of_not_mem {k : String} {fields : List (String × α)} (h : k ∉ keys fields)
    (v : α) : keys (set k v fields) = keys fields ++ [k] := by
  induction fields with
  | nil => simp [set]
  | cons pair rest ih =>
    obtain ⟨key, old⟩ := pair
    simp only [keys_cons, List.mem_cons, not_or] at h
    simp [set, Ne.symm h.1, ih h.2]

end MarkupTree.Fields
