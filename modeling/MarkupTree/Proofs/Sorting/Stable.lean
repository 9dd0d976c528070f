import Mathlib.Data.List.Basic

/-!
# Stable sorting

In an order with ties, items are tied if neither comes behind the other. A list is sorted stably if
its items are brought into order and tied ones stay as they are. Two lists in order are merged in
the same sense: of two tied items that of the first list comes first.

Results:

* `Similar.eq_mergeSort`: there is only one way to sort a list stably.
* `similar_merge`: merging two lists in order sorts the two, one behind the other, stably.
* `merge_append`: what comes first is merged first.
-/

namespace MarkupTree.Sorting

variable {α : Type} {le : α → α → Bool} {a b c : α} {xs ys zs : List α}

/-- An order with ties, by the test whether an item does not come behind another. -/
structure IsOrder (le : α → α → Bool) : Prop where
  trans : ∀ a b c, le a b = true → le b c = true → le a c = true
  total : ∀ a b, (le a b || le b a) = true

/-- Whether two items are tied. -/
def tied (le : α → α → Bool) (a b : α) : Bool := le a b && le b a

/-- Whether a list is in order. -/
def Ascends (le : α → α → Bool) (xs : List α) : Prop := xs.Pairwise fun a b => le a b = true

/-- Whether two lists hold the same items, tied ones in the same order. -/
def Similar (le : α → α → Bool) (xs ys : List α) : Prop :=
  ∀ a, xs.filter (tied le a) = ys.filter (tied le a)

/-! ## Ties -/

theorem IsOrder.refl (h : IsOrder le) (a : α) : le a a = true := by
  simpa using h.total a a

theorem IsOrder.tied_refl (h : IsOrder le) (a : α) : tied le a a = true := by
  rw [tied, h.refl, Bool.and_self]

/-- What comes strictly behind an item comes behind all that is in front of it. -/
theorem IsOrder.le_of_not_le (h : IsOrder le) (hab : le a b = false) : le b a = true := by
  simpa [hab] using h.total a b

/-- Not to come behind is transitive, and so is to come strictly behind. -/
theorem IsOrder.trans_eq (h : IsOrder le) (result : Bool) (hab : le a b = result)
    (hbc : le b c = result) : le a c = result := by
  cases result with
  | true => exact h.trans a b c hab hbc
  | false =>
    refine Bool.eq_false_iff.mpr fun hac => ?_
    rw [h.trans a c b hac (h.le_of_not_le hbc)] at hab
    contradiction

theorem tied_iff : tied le a b = true ↔ le a b = true ∧ le b a = true := Bool.and_eq_true_iff

namespace Similar

theorem refl (xs : List α) : Similar le xs xs := fun _ => rfl

theorem trans (h : Similar le xs ys) (h' : Similar le ys zs) : Similar le xs zs :=
  fun a => (h a).trans (h' a)

theorem append {xs' ys' : List α} (h : Similar le xs ys) (h' : Similar le xs' ys') :
    Similar le (xs ++ xs') (ys ++ ys') := by
  intro a
  rw [List.filter_append, List.filter_append, h a, h' a]

theorem mem_iff (ho : IsOrder le) (h : Similar le xs ys) {x : α} : x ∈ xs ↔ x ∈ ys := by
  have hx : ∀ zs : List α, x ∈ zs ↔ x ∈ zs.filter (tied le x) := fun zs => by
    rw [List.mem_filter, ho.tied_refl, and_iff_left rfl]
  rw [hx xs, hx ys, h x]

/-- Two similar lists in order are equal. -/
theorem eq_of_ascends (ho : IsOrder le) (h : Similar le xs ys) (hx : Ascends le xs)
    (hy : Ascends le ys) : xs = ys := by
  induction xs generalizing ys with
  | nil =>
    refine (List.eq_nil_iff_forall_not_mem.mpr fun y hmem => ?_).symm
    exact absurd ((h.mem_iff ho).mpr hmem) List.not_mem_nil
  | cons x xs ih =>
    obtain ⟨y, ys, rfl⟩ : ∃ y ys', ys = y :: ys' :=
      List.exists_cons_of_ne_nil (List.ne_nil_of_mem ((h.mem_iff ho).mp List.mem_cons_self))
    obtain ⟨hxs, hx'⟩ := List.pairwise_cons.mp hx
    obtain ⟨hys, hy'⟩ := List.pairwise_cons.mp hy
    -- Each of the two first items is in both lists and does not come behind the other.
    have hle : ∀ {z z' : α} {zs : List α}, (∀ w ∈ zs, le z w = true) → z' ∈ z :: zs →
        le z z' = true := by
      intro z z' zs hzs hmem
      rcases List.mem_cons.mp hmem with rfl | hmem
      · exact ho.refl z'
      · exact hzs z' hmem
    have hxy := hle hxs ((h.mem_iff ho).mpr List.mem_cons_self)
    have hyx := hle hys ((h.mem_iff ho).mp List.mem_cons_self)
    have hhead := h x
    rw [List.filter_cons_of_pos (ho.tied_refl x),
      List.filter_cons_of_pos (tied_iff.mpr ⟨hxy, hyx⟩)] at hhead
    obtain rfl := (List.cons.inj hhead).1
    congr 1
    refine ih (fun a => ?_) hx' hy'
    have ha := h a
    rw [List.filter_cons, List.filter_cons] at ha
    split at ha
    · exact (List.cons.inj ha).2
    · exact ha

end Similar

theorem similar_mergeSort (ho : IsOrder le) (xs : List α) : Similar le (xs.mergeSort le) xs := by
  intro a
  have hties : Ascends le (xs.filter (tied le a)) := by
    refine List.pairwise_of_forall_mem_list fun b hb c hc => ?_
    have hab := (tied_iff.mp (List.mem_filter.mp hb).2).2
    have hac := (tied_iff.mp (List.mem_filter.mp hc).2).1
    exact ho.trans b a c hab hac
  -- Tied items are in order already and stay in this order, and none is lost.
  have hsub := (List.sublist_mergeSort ho.trans ho.total hties List.filter_sublist).filter
    (tied le a)
  rw [List.filter_filter] at hsub
  simp only [Bool.and_self] at hsub
  have hlength := ((List.mergeSort_perm xs le).filter (tied le a)).length_eq
  exact (hsub.eq_of_length hlength.symm).symm

/-- There is only one way to sort a list stably. -/
theorem Similar.eq_mergeSort (ho : IsOrder le) (h : Similar le ys xs) (hy : Ascends le ys) :
    ys = xs.mergeSort le :=
  (h.trans fun a => (similar_mergeSort ho xs a).symm).eq_of_ascends ho hy
    (List.pairwise_mergeSort ho.trans ho.total xs)

theorem Similar.perm (ho : IsOrder le) (h : Similar le xs ys) : xs.Perm ys := by
  have hsort : xs.mergeSort le = ys.mergeSort le :=
    ((similar_mergeSort ho xs).trans h).eq_mergeSort ho
      (List.pairwise_mergeSort ho.trans ho.total xs)
  exact (List.mergeSort_perm xs le).symm.trans (hsort ▸ List.mergeSort_perm ys le)

/-- A list in which each item comes strictly behind all that follow may be reversed. -/
theorem similar_reverse (ho : IsOrder le) (h : xs.Pairwise fun a b => le a b = false) :
    Similar le xs.reverse xs := by
  intro a
  rw [List.filter_reverse]
  have hties := h.sublist (List.filter_sublist (p := tied le a))
  have htied : ∀ b ∈ xs.filter (tied le a), tied le a b = true :=
    fun b hb => (List.mem_filter.mp hb).2
  generalize xs.filter (tied le a) = ties at hties htied
  match ties with
  | [] => rfl
  | [_] => rfl
  | b :: c :: _ =>
    -- Two tied items would have kept one another from coming strictly behind.
    have hba := (tied_iff.mp (htied b (by simp))).2
    have hac := (tied_iff.mp (htied c (by simp))).1
    have hbc : le b c = false := (List.pairwise_cons.mp hties).1 c List.mem_cons_self
    rw [ho.trans b a c hba hac] at hbc
    contradiction

/-! ## Merging -/

/-- What comes first is merged first: the lists may be cut where no item of the first part of one
comes behind one of the second part of the other. -/
theorem merge_append {xs xs' ys ys' : List α} (h : ∀ x ∈ xs, ∀ y ∈ ys', le x y = true)
    (h' : ∀ x ∈ xs', ∀ y ∈ ys, le x y = false) :
    (xs ++ xs').merge (ys ++ ys') le = xs.merge ys le ++ xs'.merge ys' le := by
  induction xs generalizing ys with
  | nil =>
    induction ys with
    | nil => simp
    | cons y ys ih =>
      have hys := ih fun x hx z hz => h' x hx z (List.mem_cons_of_mem y hz)
      rw [List.nil_append, List.nil_merge] at hys ⊢
      cases xs' with
      | nil => simp
      | cons x xs' =>
        have hxy : ¬ le x y = true := by
          rw [h' x List.mem_cons_self y List.mem_cons_self]
          exact Bool.false_ne_true
        rw [List.cons_append, List.cons_merge_cons, if_neg hxy, hys, List.cons_append]
  | cons x xs ih =>
    rw [List.forall_mem_cons] at h
    induction ys with
    | nil =>
      have hxs := ih h.2 h'
      rw [List.nil_append, List.merge_right] at hxs ⊢
      cases ys' with
      | nil => simp
      | cons y ys' =>
        rw [List.cons_append, List.cons_merge_cons, if_pos (h.1 y List.mem_cons_self), hxs,
          List.cons_append]
    | cons y ys ihy =>
      rw [List.cons_append, List.cons_append, List.cons_merge_cons, List.cons_merge_cons]
      split
      · have hxs : (xs ++ xs').merge (y :: (ys ++ ys')) le = _ := ih h.2 h'
        rw [hxs, List.cons_append]
      · have hys := ihy fun z hz w hw => h' z hz w (List.mem_cons_of_mem y hw)
        rw [List.cons_append] at hys
        rw [hys, List.cons_append]

/-- Items that come strictly behind others are merged behind them. -/
theorem merge_swap (h : ∀ x ∈ xs, ∀ y ∈ ys, le x y = false) : xs.merge ys le = ys ++ xs := by
  have hcut : ([] ++ xs).merge (ys ++ []) le = [].merge ys le ++ xs.merge [] le :=
    merge_append (fun _ hx => absurd hx List.not_mem_nil) h
  simpa using hcut

theorem Ascends.merge (ho : IsOrder le) (hx : Ascends le xs) (hy : Ascends le ys) :
    Ascends le (xs.merge ys le) :=
  List.pairwise_merge ho.trans ho.total xs ys hx hy

/-- Merging two lists in order sorts the two, one behind the other, stably. -/
theorem similar_merge (ho : IsOrder le) (hx : Ascends le xs) (ys : List α) :
    Similar le (xs.merge ys le) (xs ++ ys) := by
  intro a
  induction xs generalizing ys with
  | nil => simp
  | cons x xs ih =>
    obtain ⟨hxs, hx'⟩ := List.pairwise_cons.mp hx
    induction ys with
    | nil => simp
    | cons y ys ihy =>
      rw [List.cons_merge_cons]
      split
      · rw [List.cons_append, List.filter_cons, List.filter_cons, ih hx']
      · rename_i hxy
        rw [Bool.not_eq_true] at hxy
        rw [List.filter_cons, ihy, List.filter_append, List.filter_append,
          List.filter_cons (x := y)]
        split
        · rename_i hay
          -- An item that is tied with the second list's comes before all of the first list.
          have hnone : (x :: xs).filter (tied le a) = [] := by
            rw [List.filter_eq_nil_iff]
            intro z hz hazt
            have hxz : le x z = true := by
              rcases List.mem_cons.mp hz with rfl | hz
              · exact ho.refl z
              · exact hxs z hz
            have hzy := ho.trans z a y (tied_iff.mp hazt).2 (tied_iff.mp hay).1
            rw [ho.trans x z y hxz hzy] at hxy
            contradiction
          rw [hnone]
          rfl
        · rfl

end MarkupTree.Sorting
