/-!
# The boundary of a test

A test that holds for the first items of a list and for no others has a boundary: the place of the
first item that it does not hold for. The boundary is found by halving, or by steps of growing width
from a place near which it is expected. Where a test has no boundary the search ends somewhere, and
which items are tested depends on the search alone; a test that fails ends it.

Results:

* `halve_testAt`, `gallop_eq`: both searches find the boundary of a test that has one.
-/

namespace MarkupTree.Sorting

variable {ε α : Type}

/-- The boundary of a test of places among those from `lo` to `hi`. -/
def halve (test : Nat → Except ε Bool) (lo hi : Nat) : Except ε Nat :=
  if h : lo < hi then do
    if ← test (lo + (hi - lo) / 2) then halve test (lo + (hi - lo) / 2 + 1) hi
    else halve test lo (lo + (hi - lo) / 2)
  else .ok lo
termination_by hi - lo

/-- Tests at the distances 1, 3, 7 and so on below a bound: the last distance at which the test
holds, and the first at which it does not, or the bound. -/
def stride (test : Nat → Except ε Bool) (bound last next : Nat) : Except ε (Nat × Nat) :=
  if next < bound then do
    if ← test next then stride test bound next (2 * next + 1) else return (last, next)
  else .ok (last, bound)
termination_by bound - next

/-- The boundary of a test of places below `n`, from a place on. -/
def gallopFrom (test : Nat → Except ε Bool) (n hint : Nat) : Except ε Nat := do
  if ← test hint then
    let (last, next) ← stride (fun d => test (hint + d)) (n - hint) 0 1
    halve test (hint + last + 1) (hint + next)
  else
    let (last, next) ← stride (fun d => do return !(← test (hint - d))) (hint + 1) 0 1
    halve test (hint + 1 - next) (hint - last)

/-- A test of the item at a place. -/
def testAt (test : α → Except ε Bool) (items : List α) (i : Nat) : Except ε Bool :=
  match items[i]? with
  | some x => test x
  | none => .ok false

/-- The boundary of a test in a list, from a place on. -/
def gallop (test : α → Except ε Bool) (items : List α) (hint : Nat) : Except ε Nat :=
  gallopFrom (testAt test items) items.length hint

/-! ## Tests that have a boundary -/

theorem halve_eq {test : Nat → Except ε Bool} {lo hi b : Nat} (hl : lo ≤ b) (hh : b ≤ hi)
    (h : ∀ i, lo ≤ i → i < hi → test i = .ok (decide (i < b))) : halve test lo hi = .ok b := by
  induction hn : hi - lo using Nat.strongRecOn generalizing lo hi with
  | ind n ih =>
    rw [halve]
    split
    · have hm := h (lo + (hi - lo) / 2) (by omega) (by omega)
      by_cases hb : lo + (hi - lo) / 2 < b
      · simp only [hm, hb, decide_true, bind, Except.bind, if_true]
        exact ih _ (by omega) (by omega) hh (fun i h₁ h₂ => h i (by omega) h₂) rfl
      · simp only [hm, hb, decide_false, bind, Except.bind, if_false, Bool.false_eq_true]
        exact ih _ (by omega) hl (by omega) (fun i h₁ h₂ => h i h₁ (by omega)) rfl
    · rw [show lo = b by omega]

/-- Where the steps end: behind a place at which the test holds, and at one at which it does not. -/
theorem stride_ends (test : Nat → Except ε Bool) (q : Nat → Bool) {bound last next : Nat}
    (h : ∀ d < bound, test d = .ok (q d)) (hl : last < next) (hb : last < bound) :
    ∃ l m, stride test bound last next = .ok (l, m) ∧ l < m ∧ m ≤ bound ∧
      (l = last ∨ q l = true) ∧ (m = bound ∨ q m = false) := by
  induction hn : bound - next using Nat.strongRecOn generalizing last next with
  | ind n ih =>
    rw [stride]
    split
    · rename_i hlt
      rw [h next hlt]
      cases hq : q next with
      | false =>
        refine ⟨last, next, ?_, hl, by omega, .inl rfl, .inr hq⟩
        simp [bind, Except.bind, pure, Except.pure]
      | true =>
        obtain ⟨l, m, he, h₁, h₂, h₃, h₄⟩ :=
          ih (bound - (2 * next + 1)) (by omega) (show next < 2 * next + 1 by omega) (by omega) rfl
        refine ⟨l, m, ?_, h₁, h₂, .inr ?_, h₄⟩
        · simpa [bind, Except.bind] using he
        · rcases h₃ with rfl | h₃
          · exact hq
          · exact h₃
    · exact ⟨last, bound, rfl, hb, by omega, .inl rfl, .inl rfl⟩

theorem gallopFrom_eq {test : Nat → Except ε Bool} {n hint b : Nat} (hh : hint < n) (hb : b ≤ n)
    (h : ∀ i < n, test i = .ok (decide (i < b))) : gallopFrom test n hint = .ok b := by
  rw [gallopFrom, h hint hh]
  by_cases hlt : hint < b
  · obtain ⟨l, m, he, h₁, h₂, h₃, h₄⟩ :=
      stride_ends (fun d => test (hint + d)) (fun d => decide (hint + d < b))
        (fun d hd => h (hint + d) (by omega)) (show 0 < 1 by omega) (show 0 < n - hint by omega)
    simp only [decide_eq_true_eq, decide_eq_false_iff_not] at h₃ h₄
    simp only [he, hlt, decide_true, bind, Except.bind, if_true]
    exact halve_eq (by omega) (by omega) fun i _ hi => h i (by omega)
  · obtain ⟨l, m, he, h₁, h₂, h₃, h₄⟩ :=
      stride_ends (fun d => do return !(← test (hint - d))) (fun d => !decide (hint - d < b))
        (fun d hd => by rw [h (hint - d) (by omega)]; rfl)
        (show 0 < 1 by omega) (show 0 < hint + 1 by omega)
    simp only [Bool.not_eq_true', Bool.not_eq_false', decide_eq_true_eq, decide_eq_false_iff_not]
      at h₃ h₄
    simp only [hlt, decide_false, bind, Except.bind, pure, Except.pure, Bool.false_eq_true,
      if_false] at he ⊢
    simp only [he]
    exact halve_eq (by omega) (by omega) fun i _ hi => h i (by omega)

/-- Whether a test of the items of a list holds for the first of them and for no others. -/
structure HasBoundary (test : α → Except ε Bool) (p : α → Bool) (items : List α) : Prop where
  test_eq : ∀ x ∈ items, test x = .ok (p x)
  falls : items.Pairwise fun x y => p y = true → p x = true

theorem lt_length_takeWhile {p : α → Bool} {items : List α}
    (h : items.Pairwise fun x y => p y = true → p x = true) {i : Nat} (hi : i < items.length) :
    decide (i < (items.takeWhile p).length) = p items[i] := by
  induction items generalizing i with
  | nil => contradiction
  | cons x rest ih =>
    obtain ⟨hx, hrest⟩ := List.pairwise_cons.mp h
    cases hp : p x with
    | true =>
      rw [List.takeWhile_cons_of_pos hp]
      cases i with
      | zero => simp [hp]
      | succ i => simpa using ih hrest (Nat.lt_of_succ_lt_succ hi)
    | false =>
      rw [List.takeWhile_cons_of_neg (by simp [hp])]
      cases i with
      | zero => simp [hp]
      | succ i =>
        have hi' : i < rest.length := Nat.lt_of_succ_lt_succ hi
        have hfalse : p rest[i] = false := by
          rw [Bool.eq_false_iff]
          intro hq
          rw [hx _ (List.getElem_mem hi') hq] at hp
          contradiction
        simp [hfalse]

theorem HasBoundary.testAt_eq {test : α → Except ε Bool} {p : α → Bool} {items : List α}
    (h : HasBoundary test p items) {i : Nat} (hi : i < items.length) :
    testAt test items i = .ok (decide (i < (items.takeWhile p).length)) := by
  rw [testAt, List.getElem?_eq_getElem hi, lt_length_takeWhile h.falls hi]
  exact h.test_eq _ (List.getElem_mem hi)

theorem length_takeWhile_le (p : α → Bool) (items : List α) :
    (items.takeWhile p).length ≤ items.length :=
  (List.takeWhile_prefix p).length_le

/-- The boundary of a test is found by halving. -/
theorem halve_testAt {test : α → Except ε Bool} {p : α → Bool} {items : List α}
    (h : HasBoundary test p items) :
    halve (testAt test items) 0 items.length = .ok (items.takeWhile p).length :=
  halve_eq (Nat.zero_le _) (length_takeWhile_le p items) fun _ _ hi => h.testAt_eq hi

/-- The boundary of a test is found from any place of the list. -/
theorem gallop_eq {test : α → Except ε Bool} {p : α → Bool} {items : List α}
    (h : HasBoundary test p items) {hint : Nat} (hh : hint < items.length) :
    gallop test items hint = .ok (items.takeWhile p).length :=
  gallopFrom_eq hh (length_takeWhile_le p items) fun _ hi => h.testAt_eq hi

end MarkupTree.Sorting
