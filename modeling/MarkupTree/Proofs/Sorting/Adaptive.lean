import MarkupTree.Proofs.Sorting.Merge
import MarkupTree.Sorting.Adaptive

/-!
# Sorting by runs is stable sorting

However a list is cut into runs, and in whatever order neighbouring runs are merged, the waiting
runs, one behind the other, hold what was taken from the list, with tied items in their order. When
only one run is left, it is the stably sorted list.

Results:

* `takeRun_eq`: a run is cut off.
* `Waiting.settle_eq`, `Waiting.add_eq`, `Waiting.mergeAll_eq`: the waiting runs hold the same
  items.
* `sort_eq`: the whole list is sorted stably.
-/

namespace MarkupTree.Sorting

variable {ε α : Type} {before : α → α → Except ε Bool} {le : α → α → Bool} {known : α → Prop}

theorem IsRun.merge (ho : IsOrder le) {first second : List α} (hf : IsRun le known first)
    (hs : IsRun le known second) : IsRun le known (first.merge second le) where
  known_of_mem x hx := (List.mem_merge.mp hx).elim (hf.known_of_mem x) (hs.known_of_mem x)
  ascends := hf.ascends.merge ho hs.ascends

/-! ## Cutting off a run -/

/-- A run goes on as it began: each of its items comes before all that follow, or none does. -/
theorem continueRun_eq (ht : Tells before le known) (descending : Bool) {last : α}
    {items : List α} (hlast : known last) (hk : ∀ x ∈ items, known x) :
    ∃ run others, continueRun before descending last items = .ok (run, others) ∧
      run ++ others = items ∧ (last :: run).Pairwise fun a b => le a b = !descending := by
  induction items generalizing last with
  | nil => exact ⟨[], [], rfl, rfl, List.pairwise_singleton _ _⟩
  | cons y rest ih =>
    obtain ⟨hy, hrest⟩ := List.forall_mem_cons.mp hk
    rw [continueRun, ht.before_eq y last hy hlast]
    by_cases hle : le last y = !descending
    · obtain ⟨run, others, hrun, happend, hpair⟩ := ih hy hrest
      refine ⟨y :: run, others, ?_, congrArg (y :: ·) happend, ?_⟩
      · simp [hle, hrun, bind, Except.bind, pure, Except.pure]
      · refine List.pairwise_cons.mpr ⟨List.forall_mem_cons.mpr ⟨hle, fun z hz => ?_⟩, hpair⟩
        exact ht.trans_eq _ hle ((List.pairwise_cons.mp hpair).1 z hz)
    · refine ⟨[], y :: rest, ?_, rfl, List.pairwise_singleton _ _⟩
      have hne : (!le last y) ≠ descending := fun heq => hle (by rw [← heq, Bool.not_not])
      simp [hne, bind, Except.bind, pure, Except.pure]

/-- Whether a run and the items behind it hold the items of a list, of which the run has at least
one. -/
structure IsCut (le : α → α → Bool) (known : α → Prop) (items run others : List α) : Prop where
  isRun : IsRun le known run
  similar : Similar le (run ++ others) items
  ne_nil : items ≠ [] → run ≠ []

theorem splitRun_eq (ht : Tells before le known) {items : List α} (hk : ∀ x ∈ items, known x) :
    ∃ run others, splitRun before items = .ok (run, others) ∧
      IsCut le known items run others := by
  match items with
  | [] => exact ⟨[], [], rfl, ⟨hk, List.Pairwise.nil⟩, Similar.refl _, id⟩
  | [x] => exact ⟨[x], [], rfl, ⟨hk, List.pairwise_singleton _ _⟩, Similar.refl _, id⟩
  | x :: y :: rest =>
    obtain ⟨hx, hy, hrest⟩ : known x ∧ known y ∧ ∀ z ∈ rest, known z := by simpa using hk
    obtain ⟨run, others, hrun, rfl, hpair⟩ := continueRun_eq ht (!le x y) hy hrest
    rw [Bool.not_not] at hpair
    have hwhole : (x :: y :: run).Pairwise fun a b => le a b = le x y :=
      List.pairwise_cons.mpr ⟨List.forall_mem_cons.mpr
        ⟨rfl, fun z hz => ht.trans_eq _ rfl ((List.pairwise_cons.mp hpair).1 z hz)⟩, hpair⟩
    have hknown : ∀ z ∈ x :: y :: run, known z := fun z hz => hk z (by
      rw [← List.cons_append, ← List.cons_append]
      exact List.mem_append_left _ hz)
    simp only [splitRun, ht.before_eq y x hy hx, hrun, bind, Except.bind, pure, Except.pure]
    cases hle : le x y with
    | true =>
      rw [hle] at hwhole
      exact ⟨_, _, rfl, ⟨hknown, hwhole⟩, Similar.refl _, fun _ => List.cons_ne_nil _ _⟩
    | false =>
      rw [hle] at hwhole
      have hascends : Ascends le (x :: y :: run).reverse :=
        List.pairwise_reverse.mpr (hwhole.imp fun hab => ht.le_of_not_le hab)
      exact ⟨_, _, rfl, ⟨fun z hz => hknown z (List.mem_reverse.mp hz), hascends⟩,
        (similar_reverse ht.toIsOrder hwhole).append (Similar.refl others), by simp⟩

/-- Putting an item behind those that it does not come before is merging it in. -/
theorem insert_eq_merge (ht : Tells before le known) {run : List α} (hr : IsRun le known run)
    {x : α} (hx : known x) {place : Nat}
    (hplace : place = (run.takeWhile fun y => le y x).length) :
    run.take place ++ x :: run.drop place = run.merge [x] le := by
  have hboundary := ht.boundary_first hr hx
  have hcut : (run.take place ++ run.drop place).merge ([] ++ [x]) le = _ :=
    merge_append (fun y hy z hz => by
      rw [List.mem_singleton.mp hz]
      exact eq_true_of_mem_take hboundary (hplace ▸ hy))
    fun _ _ _ hz => absurd hz List.not_mem_nil
  have hswap : (run.drop place).merge [x] le = [x] ++ run.drop place :=
    merge_swap fun y hy z hz => by
      rw [List.mem_singleton.mp hz]
      exact eq_false_of_mem_drop hboundary (hplace ▸ hy)
  rw [List.take_append_drop, List.nil_append, List.merge_right, hswap] at hcut
  exact hcut.symm

theorem insertAll_eq (ht : Tells before le known) {run items : List α} (hr : IsRun le known run)
    (hk : ∀ x ∈ items, known x) :
    ∃ whole, insertAll before run items = .ok whole ∧ IsRun le known whole ∧
      Similar le whole (run ++ items) := by
  induction items generalizing run with
  | nil => exact ⟨run, rfl, hr, by rw [List.append_nil]; exact Similar.refl run⟩
  | cons x rest ih =>
    obtain ⟨hx, hrest⟩ := List.forall_mem_cons.mp hk
    have hsingle : IsRun le known [x] :=
      ⟨fun y hy => List.mem_singleton.mp hy ▸ hx, List.pairwise_singleton _ _⟩
    obtain ⟨whole, hwhole, hrun, hsimilar⟩ := ih (hr.merge ht.toIsOrder hsingle) hrest
    refine ⟨whole, ?_, hrun, ?_⟩
    · rw [insertAll, halve_testAt (ht.boundary_first hr hx)]
      simp only [bind, Except.bind]
      rw [insert_eq_merge ht hr hx rfl, hwhole]
    · rw [List.append_cons]
      exact hsimilar.trans ((similar_merge ht.toIsOrder hr.ascends [x]).append (Similar.refl rest))

/-- A run is cut off, whatever length it is to have. -/
theorem takeRun_eq (ht : Tells before le known) (least : Nat) {items : List α}
    (hk : ∀ x ∈ items, known x) :
    ∃ run others, takeRun before least items = .ok (run, others) ∧
      IsCut le known items run others := by
  obtain ⟨run, others, hsplit, hcut⟩ := splitRun_eq ht hk
  have hothers : ∀ x ∈ others, known x :=
    fun x hx => hk x ((hcut.similar.mem_iff ht.toIsOrder).mp (List.mem_append_right run hx))
  have hmissing : ∀ x ∈ others.take (least - run.length), known x :=
    fun x hx => hothers x (List.mem_of_mem_take hx)
  obtain ⟨whole, hwhole, hrun, hsimilar⟩ := insertAll_eq ht hcut.isRun hmissing
  refine ⟨whole, others.drop (least - run.length), ?_, hrun, ?_, fun hne hnil => ?_⟩
  · simp only [takeRun, hsplit, hwhole, bind, Except.bind, pure, Except.pure]
  · have hmore := hsimilar.append (Similar.refl (others.drop (least - run.length)))
    rw [List.append_assoc, List.take_append_drop] at hmore
    exact hmore.trans hcut.similar
  · rw [hnil] at hsimilar
    have hempty := (hsimilar.perm ht.toIsOrder).symm.eq_nil
    exact hcut.ne_nil hne (List.append_eq_nil_iff.mp hempty).1

theorem IsCut.length_lt (ho : IsOrder le) {items run others : List α}
    (h : IsCut le known items run others) (hne : items ≠ []) : others.length < items.length := by
  have hlength := (h.similar.perm ho).length_eq
  have hpos := List.length_pos_iff.mpr (h.ne_nil hne)
  rw [List.length_append] at hlength
  omega

/-! ## The waiting runs -/

namespace Waiting

/-- The waiting runs, one behind the other. -/
def joined : List (Waiting α) → List α
  | [] => []
  | last :: previous => joined previous ++ last.items

theorem joined_append (runs more : List (Waiting α)) :
    joined (runs ++ more) = joined more ++ joined runs := by
  induction runs with
  | nil => exact (List.append_nil _).symm
  | cons last previous ih => rw [List.cons_append, joined, ih, joined, List.append_assoc]

/-- Whether runs wait that together hold certain items. -/
structure Hold (runs : List (Waiting α)) (le : α → α → Bool) (known : α → Prop)
    (items : List α) : Prop where
  isRun : ∀ waiting ∈ runs, IsRun le known waiting.items
  similar : Similar le (joined runs) items

variable {runs : List (Waiting α)} {items : List α}

theorem hold_nil : Hold [] le known ([] : List α) where
  isRun _ h := absurd h List.not_mem_nil
  similar := Similar.refl []

theorem Hold.trans {more : List α} (h : Hold runs le known items)
    (hsimilar : Similar le items more) : Hold runs le known more :=
  ⟨h.isRun, h.similar.trans hsimilar⟩

/-- Two neighbouring runs may be merged. -/
theorem Hold.merge (ho : IsOrder le) (front : List (Waiting α)) {rest : List (Waiting α)}
    {last previous : Waiting α}
    (h : Hold (front ++ last :: previous :: rest) le known items) :
    Hold (front ++ { previous with items := previous.items.merge last.items le } :: rest) le known
      items where
  isRun waiting hmem := by
    have hruns := h.isRun
    simp only [List.forall_mem_append, List.forall_mem_cons] at hruns
    obtain ⟨hfront, hlast, hprevious, hrest⟩ := hruns
    rcases List.mem_append.mp hmem with hmem | hmem
    · exact hfront waiting hmem
    · rcases List.mem_cons.mp hmem with rfl | hmem
      · exact hprevious.merge ho hlast
      · exact hrest waiting hmem
  similar := by
    have hprevious := h.isRun previous (by simp)
    refine Similar.trans ?_ h.similar
    rw [joined_append, joined_append, joined, joined, joined,
      List.append_assoc (joined rest) previous.items]
    have hmerge := similar_merge ho hprevious.ascends last.items
    exact ((Similar.refl (joined rest)).append hmerge).append (Similar.refl (joined front))

theorem settle_eq (ht : Tells before le known) (power patience : Nat)
    (h : Hold runs le known items) :
    ∃ settled left, settle before power patience runs = .ok (settled, left) ∧
      Hold settled le known items := by
  cases runs with
  | nil => exact ⟨[], patience, by rw [settle]; simp, h⟩
  | cons last rest =>
    induction rest generalizing last patience with
    | nil => exact ⟨[last], patience, by rw [settle]; simp, h⟩
    | cons previous rest ih =>
      rw [settle]
      split
      · obtain ⟨left, hmerge⟩ := mergeRuns_eq ht (h.isRun previous (by simp))
          (h.isRun last (by simp)) patience
        rw [hmerge]
        exact ih left _ (Hold.merge ht.toIsOrder [] h)
      · exact ⟨_, _, rfl, h⟩

/-- A run that is added waits behind the others. -/
theorem add_eq (ht : Tells before le known) (n patience start : Nat) {run : List α}
    (h : Hold runs le known items) (hr : IsRun le known run) :
    ∃ added left, add before n patience runs start run = .ok (added, left) ∧
      Hold added le known (items ++ run) := by
  have hcons : ∀ {settled : List (Waiting α)}, Hold settled le known items →
      Hold ({ start, items := run } :: settled) le known (items ++ run) := fun hs =>
    ⟨List.forall_mem_cons.mpr ⟨hr, hs.isRun⟩, hs.similar.append (Similar.refl run)⟩
  cases runs with
  | nil => exact ⟨_, _, rfl, hcons h⟩
  | cons last rest =>
    obtain ⟨settled, left, hsettle, hs⟩ :=
      settle_eq ht (boundaryPower n last.start last.items.length run.length) patience h
    simp only [add, hsettle, bind, Except.bind, pure, Except.pure]
    refine ⟨_, _, rfl, hcons ?_⟩
    -- The power of a boundary says nothing about the items.
    cases settled with
    | nil => exact hs
    | cons last rest =>
      exact ⟨List.forall_mem_cons.mpr (List.forall_mem_cons.mp hs.isRun), hs.similar⟩

/-- All waiting runs become one. -/
theorem mergeAll_eq (ht : Tells before le known) (patience : Nat)
    (h : Hold runs le known items) :
    ∃ sorted, mergeAll before patience runs = .ok sorted ∧ Ascends le sorted ∧
      Similar le sorted items := by
  match runs with
  | [] => exact ⟨[], by rw [mergeAll], List.Pairwise.nil, h.similar⟩
  | [last] =>
    exact ⟨last.items, by rw [mergeAll], (h.isRun last (by simp)).ascends, h.similar⟩
  | last :: previous :: rest =>
    induction rest generalizing last previous patience with
    | nil =>
      have hprevious := h.isRun previous (by simp)
      have hlast := h.isRun last (by simp)
      obtain ⟨left, hmerge⟩ := mergeRuns_eq ht hprevious hlast patience
      have hmerged := Hold.merge ht.toIsOrder [] h
      exact ⟨previous.items.merge last.items le, by rw [mergeAll, hmerge]; rfl,
        hprevious.ascends.merge ht.toIsOrder hlast.ascends, hmerged.similar⟩
    | cons third rest ih =>
      rw [mergeAll]
      split
      · obtain ⟨left, hmerge⟩ := mergeRuns_eq ht (h.isRun third (by simp))
          (h.isRun previous (by simp)) patience
        rw [hmerge]
        exact ih left _ _ (Hold.merge ht.toIsOrder [last] h)
      · obtain ⟨left, hmerge⟩ := mergeRuns_eq ht (h.isRun previous (by simp))
          (h.isRun last (by simp)) patience
        rw [hmerge]
        exact ih left _ _ (Hold.merge ht.toIsOrder [] h)

end Waiting

/-! ## The whole list -/

theorem sortRest_eq (ht : Tells before le known) (n least : Nat) {fuel : Nat}
    (patience start : Nat) {runs : List (Waiting α)} {taken rest items : List α}
    (h : Waiting.Hold runs le known taken) (hsimilar : Similar le (taken ++ rest) items)
    (hk : ∀ x ∈ rest, known x) (hfuel : rest.length ≤ fuel) :
    ∃ sorted, sortRest before n least fuel patience runs start rest = .ok sorted ∧
      Ascends le sorted ∧ Similar le sorted items := by
  induction fuel generalizing patience start runs taken rest with
  | zero =>
    obtain rfl := List.length_eq_zero_iff.mp (Nat.le_zero.mp hfuel)
    rw [List.append_nil] at hsimilar
    rw [sortRest]
    exact Waiting.mergeAll_eq ht patience (h.trans hsimilar)
  | succ fuel ih =>
    rw [sortRest]
    split
    · rename_i hempty
      obtain rfl := List.isEmpty_iff.mp hempty
      rw [List.append_nil] at hsimilar
      exact Waiting.mergeAll_eq ht patience (h.trans hsimilar)
    · rename_i hempty
      obtain ⟨run, others, htake, hcut⟩ := takeRun_eq ht least hk
      obtain ⟨added, left, hadd, hold⟩ := Waiting.add_eq ht n patience start h hcut.isRun
      have hlt := hcut.length_lt ht.toIsOrder (mt List.isEmpty_iff.mpr hempty)
      have hothers : ∀ x ∈ others, known x :=
        fun x hx => hk x ((hcut.similar.mem_iff ht.toIsOrder).mp (List.mem_append_right run hx))
      simp only [htake, hadd, bind, Except.bind]
      refine ih _ _ hold ?_ hothers (by omega)
      rw [List.append_assoc]
      exact ((Similar.refl taken).append hcut.similar).trans hsimilar

/-- A list of known items is sorted stably. -/
theorem sort_eq (ht : Tells before le known) {items : List α} (hk : ∀ x ∈ items, known x) :
    sort before items = .ok (items.mergeSort le) := by
  obtain ⟨sorted, hsort, hascends, hsimilar⟩ :=
    sortRest_eq ht items.length (leastRun items.length false) Merging.longStretch 0
      Waiting.hold_nil (Similar.refl items) hk (Nat.le_refl _)
  rw [sort, hsort, hsimilar.eq_mergeSort ht.toIsOrder hascends]

end MarkupTree.Sorting
