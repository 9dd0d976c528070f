/-!
# Lists that tell their parts, and lines of texts

Results:

* `map_inj_of`: what is made of the items of a list one by one tells the items, if it does for each.
* `stretch_inj`: a list is cut in one way into items with a property and a rest that starts without.
* `find?_eq_some_of_unique`: the only item with a property is found, wherever it stands.
* `intercalate_append`: the end of a separator may as well be put in front of the items behind it.
* `Text.lines_inj`: lines can be told from each other in a text.
-/

namespace MarkupTree

namespace Lists

variable {α β : Type}

/-- A function that is injective on values with a property is injective on lists of them. -/
theorem map_inj_of {p : α → Prop} {f : α → β} (hf : ∀ x y, p x → p y → f x = f y → x = y)
    {xs ys : List α} (hx : ∀ x ∈ xs, p x) (hy : ∀ y ∈ ys, p y) (h : xs.map f = ys.map f) :
    xs = ys := by
  induction xs generalizing ys with
  | nil => exact (List.map_eq_nil_iff.mp h.symm).symm
  | cons x xs ih =>
    cases ys with
    | nil => contradiction
    | cons y ys =>
      rw [List.forall_mem_cons] at hx hy
      rw [List.map_cons, List.map_cons, List.cons.injEq] at h
      rw [hf x y hx.1 hy.1 h.1, ih hx.2 hy.2 h.2]

/-- A list is cut in one way only into items with a property and a rest that starts with an item
without it. -/
theorem stretch_inj (p : α → Bool) {xs xs' rest rest' : List α} (hx : ∀ x ∈ xs, p x = true)
    (hx' : ∀ x ∈ xs', p x = true) (hr : ∀ x ∈ rest.head?, p x = false)
    (hr' : ∀ x ∈ rest'.head?, p x = false) (h : xs ++ rest = xs' ++ rest') :
    xs = xs' ∧ rest = rest' := by
  have hnil : ∀ {rest : List α}, (∀ x ∈ rest.head?, p x = false) → rest.takeWhile p = [] := by
    intro rest hr
    cases rest with
    | nil => rfl
    | cons x rest => rw [List.takeWhile_cons_of_neg (by rw [hr x rfl]; exact Bool.false_ne_true)]
  have hxs : xs = xs' := by
    have hw := congrArg (List.takeWhile p) h
    rw [List.takeWhile_append_of_pos hx, List.takeWhile_append_of_pos hx', hnil hr, hnil hr',
      List.append_nil, List.append_nil] at hw
    exact hw
  subst hxs
  exact ⟨rfl, List.append_cancel_left h⟩

/-- The only item of a list with a property is found by it. -/
theorem find?_eq_some_of_unique {p : α → Bool} {xs : List α} {x : α} (hx : x ∈ xs) (hp : p x = true)
    (hu : ∀ y ∈ xs, p y = true → y = x) : xs.find? p = some x := by
  cases hf : xs.find? p with
  | none => exact absurd hp (List.find?_eq_none.mp hf x hx)
  | some y => rw [hu y (List.mem_of_find?_eq_some hf) (List.find?_some hf)]

theorem any_or (xs : List α) (p q : α → Bool) :
    (xs.any fun x => p x || q x) = (xs.any p || xs.any q) := by
  induction xs with
  | nil => rfl
  | cons x xs ih => simp only [List.any_cons, ih, Bool.or_assoc, Bool.or_left_comm (xs.any p)]

/-- The end of a separator stands in front of every item but the first. -/
theorem intercalate_append (separator lead first : List α) (rest : List (List α)) :
    (separator ++ lead).intercalate (first :: rest) =
      separator.intercalate (first :: rest.map (lead ++ ·)) := by
  induction rest generalizing first with
  | nil => rfl
  | cons next rest ih =>
    have hnext : ∀ parts : List (List α), separator.intercalate ((lead ++ next) :: parts) =
        lead ++ separator.intercalate (next :: parts) := by
      intro parts
      cases parts <;> simp [List.intercalate_cons_cons]
    rw [List.intercalate_cons_cons, ih, List.map_cons, List.intercalate_cons_cons, hnext]
    simp

end Lists

/-! ## Lines -/

namespace Text

/-- Whether a text is a line: it is not empty and has no line break. -/
def IsLine (s : String) : Prop := s ≠ "" ∧ '\n' ∉ s.toList

theorem splitOn_intercalate_lines {xs : List String} (hx : ∀ s ∈ xs, IsLine s) (hne : xs ≠ []) :
    ("\n".intercalate xs).toList.splitOn '\n' = xs.map String.toList := by
  have hlines : ∀ l ∈ xs.map String.toList, '\n' ∉ l := by
    intro l hl
    obtain ⟨s, hs, rfl⟩ := List.mem_map.mp hl
    exact (hx s hs).2
  have hmap : xs.map String.toList ≠ [] := fun h => hne (List.map_eq_nil_iff.mp h)
  rw [String.toList_intercalate]
  exact List.splitOn_intercalate '\n' hlines hmap

theorem intercalate_lines_ne_empty {xs : List String} (hx : ∀ s ∈ xs, IsLine s) (hne : xs ≠ []) :
    "\n".intercalate xs ≠ "" := by
  intro h
  have hsplit := splitOn_intercalate_lines hx hne
  rw [h] at hsplit
  obtain ⟨s, rest, rfl⟩ := List.exists_cons_of_ne_nil hne
  have hs : s.toList = [] := by
    have hhead := congrArg List.head? hsplit
    exact (Option.some.inj hhead).symm
  exact (hx s List.mem_cons_self).1 (String.toList_eq_nil_iff.mp hs)

/-- Lines can be told from each other in a text. -/
theorem lines_inj {xs ys : List String} (hx : ∀ s ∈ xs, IsLine s) (hy : ∀ s ∈ ys, IsLine s)
    (h : "\n".intercalate xs = "\n".intercalate ys) : xs = ys := by
  by_cases hxs : xs = []
  · by_cases hys : ys = []
    · rw [hxs, hys]
    · rw [hxs, String.intercalate_nil] at h
      exact absurd h.symm (intercalate_lines_ne_empty hy hys)
  · by_cases hys : ys = []
    · rw [hys, String.intercalate_nil] at h
      exact absurd h (intercalate_lines_ne_empty hx hxs)
    · have hsplit := splitOn_intercalate_lines hx hxs
      rw [h, splitOn_intercalate_lines hy hys] at hsplit
      exact (List.map_inj_right fun _ _ => String.toList_inj.mp).mp hsplit.symm

end Text

end MarkupTree
