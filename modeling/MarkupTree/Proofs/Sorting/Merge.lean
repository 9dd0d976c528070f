import MarkupTree.Proofs.Sorting.Stable
import MarkupTree.Sorting.Merge

/-!
# Merging two runs stably

From whichever end two runs are merged, and however many items are taken at a time, the items that
are taken are those that come first seen from this end. What was merged so far and the merge of what
is left of the runs always make up the same list.

Results:

* `Merging.step_takeStretches`: what two stretches keep.
* `Merging.run_eq`: the rest is merged.
* `mergeRuns_eq`: two neighbouring runs become their merge.
-/

namespace MarkupTree.Sorting

variable {ε α : Type} {before : α → α → Except ε Bool} {le : α → α → Bool} {known : α → Prop}

/-- Whether a test tells an order of all known items, by whether one comes strictly before
another. -/
structure Tells (before : α → α → Except ε Bool) (le : α → α → Bool) (known : α → Prop) : Prop
    extends IsOrder le where
  before_eq : ∀ a b, known a → known b → before a b = .ok (!le b a)

/-- Whether a list is a run of known items. -/
structure IsRun (le : α → α → Bool) (known : α → Prop) (run : List α) : Prop where
  known_of_mem : ∀ x ∈ run, known x
  ascends : Ascends le run

theorem IsRun.sublist {run part : List α} (h : IsRun le known run) (hs : part.Sublist run) :
    IsRun le known part where
  known_of_mem x hx := h.known_of_mem x (hs.subset hx)
  ascends := h.ascends.sublist hs

/-! ## Boundaries -/

theorem eq_true_of_mem_take {test : α → Except ε Bool} {p : α → Bool} {items : List α}
    (h : HasBoundary test p items) {x : α} (hx : x ∈ items.take (items.takeWhile p).length) :
    p x = true := by
  obtain ⟨i, hi, rfl⟩ := List.mem_take_iff_getElem.mp hx
  have hlt := Nat.lt_min.mp hi
  rw [← lt_length_takeWhile h.falls hlt.2, decide_eq_true hlt.1]

theorem eq_false_of_mem_drop {test : α → Except ε Bool} {p : α → Bool} {items : List α}
    (h : HasBoundary test p items) {x : α} (hx : x ∈ items.drop (items.takeWhile p).length) :
    p x = false := by
  obtain ⟨i, hi, rfl⟩ := List.mem_drop_iff_getElem.mp hx
  rw [← lt_length_takeWhile h.falls (by omega)]
  exact decide_eq_false (by omega)

/-- The boundary of a test is found, and the items up to it are those that pass. -/
theorem exists_gallop {test : α → Except ε Bool} {p : α → Bool} {items : List α}
    (h : HasBoundary test p items) {hint : Nat} (hh : hint < items.length) :
    ∃ i, gallop test items hint = .ok i ∧ i ≤ items.length ∧
      (∀ x ∈ items.take i, p x = true) ∧ ∀ x ∈ items.drop i, p x = false :=
  ⟨_, gallop_eq h hh, length_takeWhile_le p items, fun _ => eq_true_of_mem_take h,
    fun _ => eq_false_of_mem_drop h⟩

/-- The items of the first of two runs that come up before an item of the second. -/
theorem Tells.boundary_first (ht : Tells before le known) {first : List α}
    (hf : IsRun le known first) {y : α} (hy : known y) :
    HasBoundary (fun x => do return !(← before y x)) (fun x => le x y) first where
  test_eq x hx := by
    rw [ht.before_eq y x hy (hf.known_of_mem x hx)]
    simp [bind, Except.bind, pure, Except.pure]
  falls := hf.ascends.imp fun hab hb => ht.trans _ _ y hab hb

/-- The items of the second of two runs that come up before an item of the first. -/
theorem Tells.boundary_second (ht : Tells before le known) {second : List α}
    (hs : IsRun le known second) {x : α} (hx : known x) :
    HasBoundary (fun y => before y x) (fun y => !le x y) second where
  test_eq y hy := ht.before_eq y x (hs.known_of_mem y hy) hx
  falls := hs.ascends.imp fun {a b} hab hb => by
    rw [Bool.not_eq_true'] at hb ⊢
    rw [Bool.eq_false_iff] at hb ⊢
    exact fun ha => hb (ht.trans x a b ha hab)

/-! ## The end from which runs are merged -/

namespace Side

variable {side : Side}

/-- Whether an item does not come behind another, seen from an end. -/
def leads (side : Side) (le : α → α → Bool) (a b : α) : Bool :=
  match side with
  | low => le a b
  | high => le b a

/-- Whether an item of the first run comes up before one of the second, seen from an end. -/
def wins (side : Side) (le : α → α → Bool) (x y : α) : Bool := le x y == (side == .low)

theorem wins_iff {x y : α} : side.wins le x y = true ↔ le x y = (side == .low) := beq_iff_eq

theorem wins_eq_false_iff {x y : α} : side.wins le x y = false ↔ le x y = (side == .high) := by
  cases side <;> cases h : le x y <;> simp [wins, h]

theorem wins_of_leads_right (ho : IsOrder le) {x y z : α} (h : side.wins le x y = true)
    (hyz : side.leads le y z = true) : side.wins le x z = true := by
  rw [wins_iff] at h ⊢
  cases side with
  | low => exact ho.trans x y z h hyz
  | high =>
    refine Bool.eq_false_iff.mpr fun hxz => ?_
    rw [ho.trans x z y hxz hyz] at h
    contradiction

theorem wins_of_leads_left (ho : IsOrder le) {w x y : α} (h : side.wins le x y = true)
    (hwx : side.leads le w x = true) : side.wins le w y = true := by
  rw [wins_iff] at h ⊢
  cases side with
  | low => exact ho.trans w x y hwx h
  | high =>
    refine Bool.eq_false_iff.mpr fun hwy => ?_
    rw [ho.trans x w y hwx hwy] at h
    contradiction

theorem loses_of_leads_left (ho : IsOrder le) {x y z : α} (h : side.wins le x y = false)
    (hxz : side.leads le x z = true) : side.wins le z y = false := by
  refine Bool.eq_false_iff.mpr fun hz => ?_
  rw [wins_of_leads_left ho hz hxz] at h
  contradiction

/-- The next item of a run comes up before its others. -/
theorem leads_of_next? (ho : IsOrder le) {run : List α} (hr : Ascends le run) {x : α}
    (hn : side.next? run = some x) : ∀ z ∈ run, side.leads le x z = true := by
  cases side with
  | low =>
    obtain ⟨rest, rfl⟩ := List.head?_eq_some_iff.mp hn
    exact List.forall_mem_cons.mpr ⟨ho.refl x, (List.pairwise_cons.mp hr).1⟩
  | high =>
    obtain ⟨rest, rfl⟩ := List.getLast?_eq_some_iff.mp hn
    rw [List.forall_mem_append, List.forall_mem_singleton]
    exact ⟨fun z hz => (List.pairwise_append.mp hr).2.2 z hz x (List.mem_singleton_self x),
      ho.refl x⟩

theorem mem_of_next? {run : List α} {x : α} (hn : side.next? run = some x) : x ∈ run := by
  cases side with
  | low => exact List.mem_of_head? hn
  | high => exact List.mem_of_getLast? hn

theorem exists_next? {run : List α} (h : run ≠ []) : ∃ x, side.next? run = some x := by
  cases side with
  | low => exact ⟨_, List.head?_eq_some_head h⟩
  | high => exact ⟨_, List.getLast?_eq_some_getLast h⟩

theorem taken_one {run : List α} {x : α} (hn : side.next? run = some x) :
    side.taken 1 run = [x] := by
  cases side with
  | low =>
    obtain ⟨rest, rfl⟩ := List.head?_eq_some_iff.mp hn
    rfl
  | high =>
    obtain ⟨rest, rfl⟩ := List.getLast?_eq_some_iff.mp hn
    simp [taken]

theorem left_sublist (side : Side) (count : Nat) (run : List α) :
    (side.left count run).Sublist run := by
  cases side with
  | low => exact List.drop_sublist _ _
  | high => exact List.take_sublist _ _

theorem length_left (side : Side) (count : Nat) (run : List α) :
    (side.left count run).length = run.length - count := by
  cases side with
  | low => exact List.length_drop
  | high => simp [left]

/-- The items up to the boundary of a test, seen from an end, are counted. -/
theorem reach_eq (side : Side) {test : α → Except ε Bool} {p : α → Bool} {run : List α}
    (h : HasBoundary test p run) (hne : run ≠ []) :
    ∃ count, side.reach test run = .ok count ∧
      (∀ z ∈ side.taken count run, p z = (side == .low)) ∧
      ∀ z ∈ side.left count run, p z = (side == .high) := by
  have hpos := List.length_pos_iff.mpr hne
  cases side with
  | low =>
    obtain ⟨i, hi, -, htake, hdrop⟩ := exists_gallop h hpos
    exact ⟨i, hi, htake, hdrop⟩
  | high =>
    obtain ⟨i, hi, hle, htake, hdrop⟩ := exists_gallop h (Nat.sub_lt hpos Nat.one_pos)
    refine ⟨run.length - i, ?_, ?_, ?_⟩
    · rw [reach, hi]
      rfl
    · rw [taken, Nat.sub_sub_self hle]
      exact hdrop
    · rw [left, Nat.sub_sub_self hle]
      exact htake

end Side

/-! ## Steps of a merge -/

namespace Merging

open Side (wins)

variable {m : Merging α} {side : Side}

/-- The list that a merge ends with. -/
def result (m : Merging α) (le : α → α → Bool) (side : Side) : List α :=
  side.join m.merged (m.first.merge m.second le)

/-- Whether two runs can be merged from an end: the item at the other end is known to stay there. -/
structure IsReady (m : Merging α) (le : α → α → Bool) (known : α → Prop) (side : Side) : Prop where
  first : IsRun le known m.first
  second : IsRun le known m.second
  last : match side with
    | .low => ∀ x ∈ m.first.getLast?, ∀ y ∈ m.second, le x y = false
    | .high => ∀ y ∈ m.second.head?, ∀ x ∈ m.first, le x y = false

/-- Items of the first run are taken if they come up before all of the second. -/
theorem result_takeFirst {count : Nat}
    (h : ∀ x ∈ side.taken count m.first, ∀ y ∈ m.second, side.wins le x y = true) :
    (m.takeFirst side count).result le side = m.result le side := by
  simp only [Side.wins_iff] at h
  cases side with
  | low =>
    have hcut : (m.first.take count ++ m.first.drop count).merge ([] ++ m.second) le = _ :=
      merge_append h fun _ _ _ hy => absurd hy List.not_mem_nil
    rw [List.take_append_drop, List.nil_append, List.merge_right] at hcut
    simp only [result, takeFirst, Side.join, Side.left, Side.taken, hcut, List.append_assoc]
  | high =>
    have hcut : (m.first.take (m.first.length - count) ++
        m.first.drop (m.first.length - count)).merge (m.second ++ []) le = _ :=
      merge_append (fun _ _ _ hy => absurd hy List.not_mem_nil) h
    rw [List.take_append_drop, List.append_nil, List.merge_right] at hcut
    simp only [result, takeFirst, Side.join, Side.left, Side.taken, hcut, List.append_assoc]

/-- Items of the second run are taken if all of the first come up behind them. -/
theorem result_takeSecond {count : Nat}
    (h : ∀ x ∈ m.first, ∀ y ∈ side.taken count m.second, side.wins le x y = false) :
    (m.takeSecond side count).result le side = m.result le side := by
  simp only [Side.wins_eq_false_iff] at h
  cases side with
  | low =>
    have hcut : ([] ++ m.first).merge (m.second.take count ++ m.second.drop count) le = _ :=
      merge_append (fun _ hx => absurd hx List.not_mem_nil) h
    rw [List.take_append_drop, List.nil_append, List.nil_merge] at hcut
    simp only [result, takeSecond, Side.join, Side.left, Side.taken, hcut, List.append_assoc]
  | high =>
    have hcut : (m.first ++ []).merge (m.second.take (m.second.length - count) ++
        m.second.drop (m.second.length - count)) le = _ :=
      merge_append h fun _ hx => absurd hx List.not_mem_nil
    rw [List.take_append_drop, List.append_nil, List.nil_merge] at hcut
    simp only [result, takeSecond, Side.join, Side.left, Side.taken, hcut, List.append_assoc]

theorem IsReady.takeFirst (h : m.IsReady le known side) (count : Nat) :
    (m.takeFirst side count).IsReady le known side where
  first := h.first.sublist (side.left_sublist count m.first)
  second := h.second
  last := by
    have hlast := h.last
    cases side with
    | low =>
      intro x hx
      simp only [Merging.takeFirst, Side.left, List.getLast?_drop] at hx
      split at hx
      · contradiction
      · exact hlast x hx
    | high => exact fun y hy x hx => hlast y hy x (List.mem_of_mem_take hx)

theorem IsReady.takeSecond (h : m.IsReady le known side) (count : Nat) :
    (m.takeSecond side count).IsReady le known side where
  first := h.first
  second := h.second.sublist (side.left_sublist count m.second)
  last := by
    have hlast := h.last
    cases side with
    | low => exact fun x hx y hy => hlast x hx y (List.mem_of_mem_drop hy)
    | high =>
      intro y hy
      simp only [Merging.takeSecond, Side.left, List.head?_take] at hy
      split at hy
      · contradiction
      · exact hlast y hy

/-- The rest of a merge that is done stays as it is. -/
theorem IsReady.items_eq (h : m.IsReady le known side) (hd : m.isDone side = true) :
    m.items side = m.result le side := by
  have hswap : ∀ x ∈ m.first, ∀ y ∈ m.second, le x y = false := by
    intro x hx y hy
    have hlast := h.last
    cases side with
    | low =>
      simp only [isDone, Bool.or_eq_true, List.isEmpty_iff, decide_eq_true_eq] at hd
      rcases hd with hd | hd
      · rw [hd] at hy
        contradiction
      · obtain ⟨z, hz⟩ := List.length_eq_one_iff.mp
          (Nat.le_antisymm hd (List.length_pos_of_mem hx))
        rw [hz, List.mem_singleton] at hx
        exact hlast x (by rw [hz, hx]; rfl) y hy
    | high =>
      simp only [isDone, Bool.or_eq_true, List.isEmpty_iff, decide_eq_true_eq] at hd
      rcases hd with hd | hd
      · rw [hd] at hx
        contradiction
      · obtain ⟨z, hz⟩ := List.length_eq_one_iff.mp
          (Nat.le_antisymm hd (List.length_pos_of_mem hy))
        rw [hz, List.mem_singleton] at hy
        exact hlast y (by rw [hz, hy]; rfl) x hx
  rw [items, result, merge_swap hswap]

/-- The number of items that are left to be merged. -/
def size (m : Merging α) : Nat := m.first.length + m.second.length

/-- Whether a merge is a later stage of another, which ends with the same list. -/
structure Follows (m' m : Merging α) (le : α → α → Bool) (known : α → Prop) (side : Side) :
    Prop where
  ready : m'.IsReady le known side
  result_eq : m'.result le side = m.result le side
  size_le : m'.size ≤ m.size

theorem Follows.trans {m₁ m₂ m₃ : Merging α} (h : m₁.Follows m₂ le known side)
    (h' : m₂.Follows m₃ le known side) : m₁.Follows m₃ le known side where
  ready := h.ready
  result_eq := h.result_eq.trans h'.result_eq
  size_le := Nat.le_trans h.size_le h'.size_le

theorem IsReady.follows_takeFirst (h : m.IsReady le known side) {count : Nat}
    (hw : ∀ x ∈ side.taken count m.first, ∀ y ∈ m.second, side.wins le x y = true) :
    (m.takeFirst side count).Follows m le known side where
  ready := h.takeFirst count
  result_eq := result_takeFirst hw
  size_le := by
    simp only [size, Merging.takeFirst, Side.length_left]
    omega

theorem IsReady.follows_takeSecond (h : m.IsReady le known side) {count : Nat}
    (hw : ∀ x ∈ m.first, ∀ y ∈ side.taken count m.second, side.wins le x y = false) :
    (m.takeSecond side count).Follows m le known side where
  ready := h.takeSecond count
  result_eq := result_takeSecond hw
  size_le := by
    simp only [size, Merging.takeSecond, Side.length_left]
    omega

theorem size_takeFirst_one {x : α} (hx : side.next? m.first = some x) :
    (m.takeFirst side 1).size < m.size := by
  have hpos := List.length_pos_of_mem (Side.mem_of_next? hx)
  simp only [size, takeFirst, Side.length_left]
  omega

theorem size_takeSecond_one {y : α} (hy : side.next? m.second = some y) :
    (m.takeSecond side 1).size < m.size := by
  have hpos := List.length_pos_of_mem (Side.mem_of_next? hy)
  simp only [size, takeSecond, Side.length_left]
  omega

/-- Both runs of a merge that is not done have a next item. -/
theorem exists_next?_of_not_isDone (h : m.isDone side = false) :
    (∃ x, side.next? m.first = some x) ∧ ∃ y, side.next? m.second = some y := by
  have hne : m.first ≠ [] ∧ m.second ≠ [] := by
    constructor <;> intro he <;> cases side <;> simp [isDone, he] at h
  exact ⟨Side.exists_next? hne.1, Side.exists_next? hne.2⟩

section Steps

variable (ht : Tells before le known) (h : m.IsReady le known side) {x y : α}
include ht h

theorem firstWins_eq (hx : side.next? m.first = some x) (hy : side.next? m.second = some y) :
    m.firstWins before side = .ok (side.wins le x y) := by
  have hbefore := ht.before_eq y x (h.second.known_of_mem y (Side.mem_of_next? hy))
    (h.first.known_of_mem x (Side.mem_of_next? hx))
  simp only [firstWins, hx, hy, hbefore, bind, Except.bind, pure, Except.pure]
  cases side <;> cases hle : le x y <;> simp [wins, hle]

/-- The next item of the first run is taken if it comes up before that of the second. -/
theorem follows_takeFirst_one (hx : side.next? m.first = some x)
    (hy : side.next? m.second = some y) (hw : side.wins le x y = true) :
    (m.takeFirst side 1).Follows m le known side := by
  apply h.follows_takeFirst
  rw [Side.taken_one hx, List.forall_mem_singleton]
  exact fun w hmem => Side.wins_of_leads_right ht.toIsOrder hw
    (Side.leads_of_next? ht.toIsOrder h.second.ascends hy w hmem)

/-- Otherwise the next item of the second run is taken. -/
theorem follows_takeSecond_one (hx : side.next? m.first = some x)
    (hy : side.next? m.second = some y) (hw : side.wins le x y = false) :
    (m.takeSecond side 1).Follows m le known side := by
  apply h.follows_takeSecond
  intro z hz
  rw [Side.taken_one hy, List.forall_mem_singleton]
  exact Side.loses_of_leads_left ht.toIsOrder hw
    (Side.leads_of_next? ht.toIsOrder h.first.ascends hx z hz)

/-- A stretch of the first run ends where its items no longer come up before the next one of the
second. -/
theorem exists_firstReach (hx : side.next? m.first = some x) (hy : side.next? m.second = some y) :
    ∃ i, m.firstReach before side = .ok i ∧ (m.takeFirst side i).Follows m le known side ∧
      ∀ z ∈ (m.takeFirst side i).first, side.wins le z y = false := by
  have hknown := h.second.known_of_mem y (Side.mem_of_next? hy)
  obtain ⟨i, hi, htaken, hleft⟩ := Side.reach_eq side (ht.boundary_first h.first hknown)
    (List.ne_nil_of_mem (Side.mem_of_next? hx))
  refine ⟨i, ?_, ?_, fun z hz => Side.wins_eq_false_iff.mpr (hleft z hz)⟩
  · rw [firstReach, hy]
    exact hi
  · apply h.follows_takeFirst
    exact fun z hz w hw => Side.wins_of_leads_right ht.toIsOrder (Side.wins_iff.mpr (htaken z hz))
      (Side.leads_of_next? ht.toIsOrder h.second.ascends hy w hw)

/-- A stretch of the second run ends where its items no longer come up before the next one of the
first. -/
theorem exists_secondReach (hx : side.next? m.first = some x)
    (hy : side.next? m.second = some y) :
    ∃ j, m.secondReach before side = .ok j ∧ (m.takeSecond side j).Follows m le known side ∧
      ∀ w ∈ (m.takeSecond side j).second, side.wins le x w = true := by
  have hknown := h.first.known_of_mem x (Side.mem_of_next? hx)
  obtain ⟨j, hj, htaken, hleft⟩ := Side.reach_eq side (ht.boundary_second h.second hknown)
    (List.ne_nil_of_mem (Side.mem_of_next? hy))
  have hloses : ∀ w ∈ side.taken j m.second, side.wins le x w = false := by
    intro w hw
    have hp := htaken w hw
    rw [Side.wins_eq_false_iff]
    revert hp
    cases side <;> cases le x w <;> decide
  refine ⟨j, ?_, ?_, fun w hw => ?_⟩
  · rw [secondReach, hx]
    exact hj
  · apply h.follows_takeSecond
    exact fun z hz w hw => Side.loses_of_leads_left ht.toIsOrder (hloses w hw)
      (Side.leads_of_next? ht.toIsOrder h.first.ascends hx z hz)
  · have hp := hleft w hw
    rw [Side.wins_iff]
    revert hp
    cases side <;> cases le x w <;> decide

/-- Two stretches are taken, each with the item that ends it. -/
theorem step_takeStretches (hd : m.isDone side = false) :
    ∃ m' longest, m.takeStretches before side = .ok (m', longest) ∧
      m'.Follows m le known side ∧ (m'.isDone side = true ∨ m'.size < m.size) := by
  obtain ⟨⟨x, hx⟩, y, hy⟩ := exists_next?_of_not_isDone hd
  obtain ⟨i, hi, hfirst, hleft⟩ := exists_firstReach ht h hx hy
  have hy₁ : side.next? (m.takeFirst side i).second = some y := hy
  simp only [takeStretches, hi, bind, Except.bind, pure, Except.pure]
  generalize m.takeFirst side i = m₁ at hfirst hleft hy₁
  cases hd₁ : m₁.isDone side with
  | true => exact ⟨m₁, i, rfl, hfirst, .inl hd₁⟩
  | false =>
    obtain ⟨⟨x₁, hx₁⟩, -⟩ := exists_next?_of_not_isDone hd₁
    have hended := follows_takeSecond_one ht hfirst.ready hx₁ hy₁
      (hleft x₁ (Side.mem_of_next? hx₁))
    have hlt := Nat.lt_of_lt_of_le (size_takeSecond_one hy₁) hfirst.size_le
    have hx₂ : side.next? (m₁.takeSecond side 1).first = some x₁ := hx₁
    simp only [Bool.false_eq_true, if_false]
    generalize m₁.takeSecond side 1 = m₂ at hended hlt hx₂
    cases hd₂ : m₂.isDone side with
    | true => exact ⟨m₂, i, rfl, hended.trans hfirst, .inl hd₂⟩
    | false =>
      obtain ⟨-, y₂, hy₂⟩ := exists_next?_of_not_isDone hd₂
      obtain ⟨j, hj, hsecond, hright⟩ := exists_secondReach ht hended.ready hx₂ hy₂
      have hx₃ : side.next? (m₂.takeSecond side j).first = some x₁ := hx₂
      simp only [hj, Bool.false_eq_true, if_false]
      generalize m₂.takeSecond side j = m₃ at hsecond hright hx₃
      have hfollows := hsecond.trans (hended.trans hfirst)
      cases hd₃ : m₃.isDone side with
      | true => exact ⟨m₃, max i j, rfl, hfollows, .inl hd₃⟩
      | false =>
        obtain ⟨-, y₃, hy₃⟩ := exists_next?_of_not_isDone hd₃
        have hlast := follows_takeFirst_one ht hsecond.ready hx₃ hy₃
          (hright y₃ (Side.mem_of_next? hy₃))
        have hsize := hsecond.size_le
        have hsize' := hlast.size_le
        exact ⟨m₃.takeFirst side 1, max i j, rfl, hlast.trans hfollows, .inr (by omega)⟩

end Steps

/-- The rest is merged, at whatever pace. -/
theorem run_eq (ht : Tells before le known) {fuel : Nat} (pace : Pace) (patience : Nat)
    (h : m.IsReady le known side) (hfuel : m.size ≤ fuel) :
    ∃ left, run before side fuel pace patience m = .ok (m.result le side, left) := by
  induction fuel generalizing m pace patience with
  | zero =>
    have hfirst : m.first = [] := List.length_eq_zero_iff.mp (by unfold size at hfuel; omega)
    have hdone : m.isDone side = true := by cases side <;> simp [isDone, hfirst]
    exact ⟨patience, by rw [run, h.items_eq hdone]⟩
  | succ fuel ih =>
    unfold run
    cases hd : m.isDone side with
    | true => exact ⟨patience, by rw [if_pos rfl, h.items_eq hd]⟩
    | false =>
      rw [if_neg Bool.false_ne_true]
      obtain ⟨⟨x, hx⟩, y, hy⟩ := exists_next?_of_not_isDone hd
      cases pace with
      | items i j =>
        simp only [firstWins_eq ht h hx hy, bind, Except.bind]
        cases hw : side.wins le x y with
        | true =>
          have hstep := follows_takeFirst_one ht h hx hy hw
          have hsize := size_takeFirst_one hx
          rw [← hstep.result_eq]
          exact ih _ _ hstep.ready (by omega)
        | false =>
          have hstep := follows_takeSecond_one ht h hx hy hw
          have hsize := size_takeSecond_one hy
          rw [← hstep.result_eq]
          exact ih _ _ hstep.ready (by omega)
      | stretches =>
        obtain ⟨m', longest, hm', hstep, hsize⟩ := step_takeStretches ht h hd
        simp only [hm', bind, Except.bind, pure, Except.pure]
        rw [← hstep.result_eq]
        cases hd' : m'.isDone side with
        | true => exact ⟨patience, by rw [if_pos rfl, hstep.ready.items_eq hd']⟩
        | false =>
          have hlt : m'.size < m.size := hsize.resolve_left (by simp [hd'])
          rw [if_neg Bool.false_ne_true]
          split
          · exact ih _ _ hstep.ready (by omega)
          · exact ih _ _ hstep.ready (by omega)

end Merging

/-! ## Whole merges -/

/-- Two runs are merged if the first item is one of the second and the last one of the first. -/
theorem interleave_eq (ht : Tells before le known) {first second : List α}
    (hf : IsRun le known first) (hs : IsRun le known second) {x y : α}
    (hx : first.getLast? = some x) (hy : second.head? = some y)
    (hlast : ∀ z ∈ second, le x z = false) (hhead : ∀ z ∈ first, le z y = false)
    (patience : Nat) :
    ∃ left, interleave before patience first second = .ok (first.merge second le, left) := by
  let m : Merging α := ⟨first, second, []⟩
  have hx' : Side.high.next? m.first = some x := hx
  have hy' : Side.low.next? m.second = some y := hy
  rw [interleave]
  split
  · have hready : m.IsReady le known .low :=
      ⟨hf, hs, fun z hz => by rw [hx] at hz; cases hz; exact hlast⟩
    have hstep : (m.takeSecond .low 1).Follows m le known .low := by
      apply hready.follows_takeSecond
      intro z hz
      rw [Side.taken_one hy', List.forall_mem_singleton]
      exact Side.wins_eq_false_iff.mpr (hhead z hz)
    obtain ⟨left, hrun⟩ := Merging.run_eq ht (.items 0 0) patience hstep.ready hstep.size_le
    exact ⟨left, hrun.trans (by rw [hstep.result_eq]; rfl)⟩
  · have hready : m.IsReady le known .high :=
      ⟨hf, hs, fun z hz => by rw [hy] at hz; cases hz; exact hhead⟩
    have hstep : (m.takeFirst .high 1).Follows m le known .high := by
      apply hready.follows_takeFirst
      rw [Side.taken_one hx', List.forall_mem_singleton]
      exact fun w hw => Side.wins_iff.mpr (hlast w hw)
    obtain ⟨left, hrun⟩ := Merging.run_eq ht (.items 0 0) patience hstep.ready hstep.size_le
    have hresult : m.result le .high = first.merge second le := List.append_nil _
    exact ⟨left, hrun.trans (by rw [hstep.result_eq, hresult])⟩

/-- The outer parts of two runs can stay where they are. -/
theorem merge_cut {first second : List α} {i j : Nat}
    (htake : ∀ z ∈ first.take i, ∀ w ∈ second, le z w = true)
    (hdrop : ∀ z ∈ first, ∀ w ∈ second.drop j, le z w = true) :
    first.merge second le =
      first.take i ++ (first.drop i).merge (second.take j) le ++ second.drop j := by
  have hlow : (first.take i ++ first.drop i).merge ([] ++ second) le = _ :=
    merge_append htake fun _ _ _ hy => absurd hy List.not_mem_nil
  have hhigh : (first.drop i ++ []).merge (second.take j ++ second.drop j) le = _ :=
    merge_append (fun z hz => hdrop z (List.mem_of_mem_drop hz))
      fun _ hx => absurd hx List.not_mem_nil
  rw [List.take_append_drop, List.nil_append, List.merge_right] at hlow
  rw [List.append_nil, List.take_append_drop, List.nil_merge] at hhigh
  rw [hlow, hhigh, List.append_assoc]

/-- Two neighbouring runs become their merge. -/
theorem mergeRuns_eq (ht : Tells before le known) {first second : List α}
    (hf : IsRun le known first) (hs : IsRun le known second) (patience : Nat) :
    ∃ left, mergeRuns before patience first second = .ok (first.merge second le, left) := by
  have ho := ht.toIsOrder
  rw [mergeRuns]
  split
  · rename_i x y hx hy
    have hx' : Side.high.next? first = some x := hx
    have hy' : Side.low.next? second = some y := hy
    have hxs : ∀ z ∈ first, le z x = true := Side.leads_of_next? ho hf.ascends hx'
    have hys : ∀ z ∈ second, le y z = true := Side.leads_of_next? ho hs.ascends hy'
    have hxmem := Side.mem_of_next? hx'
    have hymem := Side.mem_of_next? hy'
    obtain ⟨i, hi, hle, htake, hdrop⟩ :=
      exists_gallop (ht.boundary_first hf (hs.known_of_mem y hymem))
        (List.length_pos_of_mem hxmem)
    obtain ⟨j, hj, -, htake', hdrop'⟩ :=
      exists_gallop (ht.boundary_second hs (hf.known_of_mem x hxmem))
        (Nat.sub_lt (List.length_pos_of_mem hymem) Nat.one_pos)
    -- What stays at the two ends does not come behind anything of the other run.
    have hlow : ∀ z ∈ first.take i, ∀ w ∈ second, le z w = true :=
      fun z hz w hw => ho.trans z y w (htake z hz) (hys w hw)
    have hhigh : ∀ z ∈ first, ∀ w ∈ second.drop j, le z w = true :=
      fun z hz w hw => ho.trans z x w (hxs z hz) (by simpa using hdrop' w hw)
    rw [hi]
    simp only [hj, bind, Except.bind, pure, Except.pure]
    split
    · rename_i hall
      rw [hall, List.take_length] at hlow
      exact ⟨patience, by rw [List.merge_of_le fun z w hz => hlow z hz w]⟩
    split
    · rename_i hnone
      rw [hnone, List.drop_zero] at hhigh
      exact ⟨patience, by rw [List.merge_of_le fun z w hz => hhigh z hz w]⟩
    · rename_i hall hnone
      obtain ⟨left, hmerge⟩ := interleave_eq ht (hf.sublist (List.drop_sublist i first))
        (hs.sublist (List.take_sublist j second)) (x := x) (y := y)
        (by rw [List.getLast?_drop, if_neg (by omega), hx])
        (by rw [List.head?_take, if_neg hnone, hy])
        (fun w hw => by simpa using htake' w hw) hdrop patience
      rw [hmerge]
      exact ⟨left, by rw [merge_cut hlow hhigh]⟩
  · rename_i hempty
    refine ⟨patience, ?_⟩
    cases first with
    | nil => rw [List.nil_merge, List.nil_append]
    | cons x first =>
      cases second with
      | nil => rw [List.merge_right, List.append_nil]
      | cons y second => exact (hempty _ y (List.getLast?_cons ..) rfl).elim

end MarkupTree.Sorting
