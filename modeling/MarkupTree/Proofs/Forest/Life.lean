import Mathlib.Algebra.BigOperators.Group.Finset.Basic
import Mathlib.Algebra.BigOperators.Intervals
import MarkupTree.Forest.Walk
import MarkupTree.Proofs.Fields

/-!
# Which nodes live

A node lives as long as it can be reached from an id. The search for what can be reached follows
every link at most once, so that the number of ids and links bounds its length.

Results:

* `openLinks_cons`: to see a place is to use up its links.
* `reach_spec`: a search with enough fuel finds what it started from, and what is below that.
* `live_spec`: what ids are bound to lives, and so does what is right below a living node.
* `mem_live_of_find`: what an id finds lives.
-/

namespace MarkupTree.Forest

variable {forest : Forest}

/-- The number of links from places that were not seen yet. -/
def openLinks (forest : Forest) (seen : List Nat) : Nat :=
  ∑ n ∈ (Finset.range forest.cells.size).filter (· ∉ seen), (forest.cell n).below.length

theorem below_of_size_le {n : Nat} (h : forest.cells.size ≤ n) : (forest.cell n).below = [] := by
  rw [cell, Array.getD_eq_getD_getElem?, Array.getElem?_eq_none h]
  rfl

theorem openLinks_cons {seen : List Nat} {n : Nat} (h : n ∉ seen) :
    (forest.cell n).below.length + forest.openLinks (n :: seen) = forest.openLinks seen := by
  have hfilter : (Finset.range forest.cells.size).filter (· ∉ n :: seen) =
      ((Finset.range forest.cells.size).filter (· ∉ seen)).erase n := by
    ext m
    simp only [Finset.mem_filter, Finset.mem_erase, List.mem_cons, not_or]
    exact and_left_comm
  rw [openLinks, openLinks, hfilter]
  by_cases hn : n < forest.cells.size
  · apply Finset.add_sum_erase _ fun n => (forest.cell n).below.length
    exact Finset.mem_filter.mpr ⟨Finset.mem_range.mpr hn, h⟩
  · rw [below_of_size_le (Nat.not_lt.mp hn), Finset.erase_eq_of_notMem, List.length_nil, Nat.zero_add]
    exact fun hm => hn (Finset.mem_range.mp (Finset.mem_filter.mp hm).1)

theorem foldl_length_below (cells : List Cell) (d : Cell) (k : Nat) :
    cells.foldl (fun n cell => n + cell.below.length) k =
      k + ∑ n ∈ Finset.range cells.length, (cells[n]?.getD d).below.length := by
  induction cells generalizing k with
  | nil => rfl
  | cons cell rest ih =>
    rw [List.foldl_cons, ih, List.length_cons, Finset.sum_range_succ', List.getElem?_cons_zero,
      Option.getD_some]
    simp only [List.getElem?_cons_succ]
    omega

theorem links_eq (forest : Forest) :
    forest.cells.foldl (fun n cell => n + cell.below.length) 0 = forest.openLinks [] := by
  rw [← Array.foldl_toList, foldl_length_below _ (.single ⟨.plain, .null, none⟩), Nat.zero_add,
    openLinks, Array.length_toList]
  apply Finset.sum_congr
  · simp
  · intro n _
    rw [cell, Array.getD_eq_getD_getElem?, Array.getElem?_toList]

/-! ## The search -/

/-- Whether these places include all that is right below any of them. -/
def Closed (forest : Forest) (places : List Nat) : Prop :=
  ∀ n ∈ places, ∀ m ∈ (forest.cell n).below, m ∈ places

/-- The invariant of the search: what is right below a place that was seen was seen too or is still
to be looked at. -/
def Pending (forest : Forest) (todo seen : List Nat) : Prop :=
  ∀ n ∈ seen, ∀ m ∈ (forest.cell n).below, m ∈ seen ∨ m ∈ todo

theorem Pending.closed {seen : List Nat} (h : forest.Pending [] seen) : forest.Closed seen :=
  fun n hn m hm => (h n hn m hm).resolve_right List.not_mem_nil

theorem Pending.skip {n : Nat} {todo seen : List Nat} (h : forest.Pending (n :: todo) seen)
    (hn : n ∈ seen) : forest.Pending todo seen := by
  intro k hk m hm
  rcases h k hk m hm with hseen | htodo
  · exact Or.inl hseen
  · rcases List.mem_cons.mp htodo with rfl | htodo
    · exact Or.inl hn
    · exact Or.inr htodo

theorem Pending.visit {n : Nat} {todo seen : List Nat} (h : forest.Pending (n :: todo) seen) :
    forest.Pending ((forest.cell n).below ++ todo) (n :: seen) := by
  intro k hk m hm
  rcases List.mem_cons.mp hk with rfl | hk
  · exact Or.inr (List.mem_append_left _ hm)
  · rcases h k hk m hm with hseen | htodo
    · exact Or.inl (List.mem_cons_of_mem _ hseen)
    · rcases List.mem_cons.mp htodo with rfl | htodo
      · exact Or.inl List.mem_cons_self
      · exact Or.inr (List.mem_append_right _ htodo)

/-- With fuel for all that is still to be looked at and for all links that may still be met, a
search loses nothing and ends with places that include all that is below them. -/
theorem reach_spec {fuel : Nat} {todo seen : List Nat}
    (hfuel : todo.length + forest.openLinks seen ≤ fuel) (h : forest.Pending todo seen) :
    (∀ n, n ∈ todo ∨ n ∈ seen → n ∈ forest.reach fuel todo seen) ∧
      forest.Closed (forest.reach fuel todo seen) := by
  induction fuel generalizing todo seen with
  | zero =>
    obtain rfl : todo = [] := List.eq_nil_of_length_eq_zero (by omega)
    rw [reach]
    exact ⟨fun n hn => hn.resolve_left List.not_mem_nil, h.closed⟩
  | succ fuel ih =>
    cases todo with
    | nil =>
      rw [reach]
      exact ⟨fun n hn => hn.resolve_left List.not_mem_nil, h.closed⟩
    | cons n todo =>
      rw [List.length_cons] at hfuel
      by_cases hn : n ∈ seen
      · rw [reach, if_pos (List.contains_iff_mem.mpr hn)]
        obtain ⟨hfound, hclosed⟩ := ih (by omega) (h.skip hn)
        refine ⟨fun m hm => hfound m ?_, hclosed⟩
        rcases hm with hm | hm
        · rcases List.mem_cons.mp hm with rfl | hm
          · exact Or.inr hn
          · exact Or.inl hm
        · exact Or.inr hm
      · rw [reach, if_neg (List.contains_iff_mem.not.mpr hn)]
        have hlinks : (forest.cell n).below.length + forest.openLinks (n :: seen) =
            forest.openLinks seen := openLinks_cons hn
        obtain ⟨hfound, hclosed⟩ := ih (by rw [List.length_append]; omega) h.visit
        refine ⟨fun m hm => hfound m ?_, hclosed⟩
        rcases hm with hm | hm
        · rcases List.mem_cons.mp hm with rfl | hm
          · exact Or.inr List.mem_cons_self
          · exact Or.inl (List.mem_append_right _ hm)
        · exact Or.inr (List.mem_cons_of_mem _ hm)

/-! ## Life -/

theorem live_spec (forest : Forest) :
    (∀ n ∈ forest.ids.map Prod.snd, n ∈ forest.live) ∧ forest.Closed forest.live := by
  have hstart : forest.Pending (forest.ids.map Prod.snd) [] :=
    fun n hn => absurd hn List.not_mem_nil
  have hfuel : (forest.ids.map Prod.snd).length + forest.openLinks [] ≤
      forest.ids.length + forest.openLinks [] + 1 := by
    rw [List.length_map]
    exact Nat.le_succ _
  obtain ⟨hfound, hclosed⟩ := reach_spec hfuel hstart
  rw [live, links_eq]
  exact ⟨fun n hn => hfound n (Or.inl hn), hclosed⟩

/-- What an id finds lives. -/
theorem mem_live_of_find {id : String} {n : Nat} (h : forest.find id = .ok n) : n ∈ forest.live := by
  apply forest.live_spec.1
  rw [find] at h
  split at h
  · rename_i m hm
    obtain rfl := Except.ok.inj h
    exact List.mem_map_of_mem (Fields.mem_of_lookup_eq_some hm)
  · contradiction

end MarkupTree.Forest
