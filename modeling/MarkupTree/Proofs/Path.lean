import Mathlib.Data.List.Forall2

/-!
# Paths down a tree

Below a node there are its children, in order, and perhaps a content, which is reached by a branch
of its own. A path is a list of branches, from the top down. Source trees, document trees and the
cells of a forest all have paths of this kind.

Results:

* `forall₂_flatMap`, `exists_of_forall₂_right`: lists that are related piece by piece.
* `forall₂_of_forall₂`: lists that are related through those they come from.
* `map_snd_all`, `mem_all`: the branches from a node lead to what is right below it.
* `forall₂_all`, `exists_get?_of_forall₂`: what is related in order is related along each branch.
-/

namespace MarkupTree

/-- What is related piece by piece is related as a whole. -/
theorem forall₂_flatMap {α β γ δ : Type} {R : γ → δ → Prop} {f : α → List γ} {g : β → List δ}
    {xs : List α} {ys : List β}
    (h : List.Forall₂ (fun x y => List.Forall₂ R (f x) (g y)) xs ys) :
    List.Forall₂ R (xs.flatMap f) (ys.flatMap g) := by
  induction h with
  | nil => exact .nil
  | cons hxy _ ih => exact List.rel_append hxy ih

/-- What is related in order is related as members of the two lists. -/
theorem forall₂_mem {α β : Type} {R : α → β → Prop} {xs : List α} {ys : List β}
    (h : List.Forall₂ R xs ys) :
    List.Forall₂ (fun x y => x ∈ xs ∧ y ∈ ys ∧ R x y) xs ys := by
  rw [List.forall₂_and_left]
  refine ⟨fun x hx => hx, List.Forall₂.flip ?_⟩
  exact (List.forall₂_and_left ys xs).mpr ⟨fun y hy => hy, h.flip⟩

theorem exists_of_forall₂_right {α β : Type} {R : α → β → Prop} {xs : List α} {ys : List β}
    (h : List.Forall₂ R xs ys) {y : β} (hy : y ∈ ys) : ∃ x ∈ xs, R x y := by
  obtain ⟨i, hi, rfl⟩ := List.mem_iff_getElem.mp hy
  have hi' : i < xs.length := h.length_eq ▸ hi
  exact ⟨xs[i], List.getElem_mem hi', h.get hi' hi⟩

/-- What is related through what it comes from is related in turn. -/
theorem forall₂_of_forall₂ {α α' β β' : Type} {R : α → α' → Prop} {S : α → β → Prop}
    {S' : α' → β' → Prop} {T : β → β' → Prop} {xs : List α} {xs' : List α'} {ys : List β}
    {ys' : List β'} (h : List.Forall₂ R xs xs') (hs : List.Forall₂ S xs ys)
    (hs' : List.Forall₂ S' xs' ys')
    (hT : ∀ x ∈ xs, ∀ x' y y', R x x' → S x y → S' x' y' → T y y') : List.Forall₂ T ys ys' := by
  induction h generalizing ys ys' with
  | nil =>
    cases hs
    cases hs'
    exact .nil
  | cons hx _ ih =>
    obtain ⟨y, ys, hy, hys, rfl⟩ := List.forall₂_cons_left_iff.mp hs
    obtain ⟨y', ys', hy', hys', rfl⟩ := List.forall₂_cons_left_iff.mp hs'
    refine .cons (hT _ List.mem_cons_self _ _ _ hx hy hy') (ih hys hys' fun x hmem => ?_)
    exact hT x (List.mem_cons_of_mem _ hmem)

theorem rel_of_forall₂_toList {α β : Type} {R : α → β → Prop} {x? : Option α} {y? : Option β}
    (h : List.Forall₂ R x?.toList y?.toList) : Option.Rel R x? y? := by
  cases x? with
  | none =>
    cases y? with
    | none => exact .none
    | some y => cases h
  | some x =>
    cases y? with
    | none => cases h
    | some y => exact .some (List.forall₂_cons.mp h).1

/-- The way to something right below a node: to the child at an index, or to the content. -/
inductive Branch where
  | child (index : Nat)
  | content
deriving DecidableEq

/-- Branches from the top down. -/
abbrev Path := List Branch

namespace Branch

variable {α β : Type}

/-- What a branch leads to from a node with these children and this content. -/
def get? (children : List α) (content : Option α) : Branch → Option α
  | .child i => children[i]?
  | .content => content

/-- The branches from a node with these children and this content, with what they lead to. -/
def all (children : List α) (content : Option α) : List (Branch × α) :=
  children.mapIdx (fun i x => (.child i, x)) ++ content.toList.map (.content, ·)

theorem map_snd_mapIdx (f : Nat → Branch) (xs : List α) :
    (xs.mapIdx fun i x => (f i, x)).map Prod.snd = xs := by
  induction xs generalizing f with
  | nil => rfl
  | cons x rest ih => rw [List.mapIdx_cons, List.map_cons, ih fun i => f (i + 1)]

theorem map_snd_all (children : List α) (content : Option α) :
    (all children content).map Prod.snd = children ++ content.toList := by
  rw [all, List.map_append, map_snd_mapIdx, List.map_map]
  exact congrArg (children ++ ·) (List.map_id _)

theorem mem_all {children : List α} {content : Option α} {branch : Branch} {x : α} :
    (branch, x) ∈ all children content ↔ get? children content branch = some x := by
  rw [all, List.mem_append, List.mem_mapIdx, List.mem_map]
  cases branch with
  | child i =>
    simp only [Prod.mk.injEq, child.injEq, reduceCtorEq, false_and, and_false, exists_false, or_false,
      get?, List.getElem?_eq_some_iff]
    constructor
    · rintro ⟨i, hi, rfl, rfl⟩
      exact ⟨hi, rfl⟩
    · rintro ⟨hi, rfl⟩
      exact ⟨i, hi, rfl, rfl⟩
  | content => simp [get?]

theorem mem_of_get? {children : List α} {content : Option α} {branch : Branch} {x : α}
    (h : get? children content branch = some x) : x ∈ children ++ content.toList := by
  rw [← map_snd_all]
  exact List.mem_map_of_mem (mem_all.mpr h)

theorem forall₂_mapIdx {γ δ : Type} {R : Nat → α → β → Prop} {S : γ → δ → Prop} {f : Nat → α → γ}
    {g : Nat → β → δ} {xs : List α} {ys : List β} (h : ∀ i, List.Forall₂ (R i) xs ys)
    (hfg : ∀ i x y, R i x y → S (f i x) (g i y)) : List.Forall₂ S (xs.mapIdx f) (ys.mapIdx g) := by
  induction xs generalizing ys R f g with
  | nil =>
    cases h 0
    exact .nil
  | cons x xs ih =>
    obtain ⟨y, ys, hxy, -, rfl⟩ := List.forall₂_cons_left_iff.mp (h 0)
    rw [List.mapIdx_cons, List.mapIdx_cons]
    have hrest : ∀ i, List.Forall₂ (R (i + 1)) xs ys := fun i =>
      (List.forall₂_cons.mp (h (i + 1))).2
    exact .cons (hfg 0 _ _ hxy) (ih hrest fun i => hfg (i + 1))

/-- What is related in order is reached by the same branches. -/
theorem forall₂_all {R : Branch → α → β → Prop} {xs : List α} {ys : List β} {x? : Option α}
    {y? : Option β} (h : ∀ i, List.Forall₂ (R (.child i)) xs ys)
    (h? : List.Forall₂ (R .content) x?.toList y?.toList) :
    List.Forall₂ (fun p q => p.1 = q.1 ∧ get? xs x? p.1 = some p.2 ∧ get? ys y? q.1 = some q.2 ∧
      R p.1 p.2 q.2) (all xs x?) (all ys y?) := by
  have hall : List.Forall₂ (fun p q => p.1 = q.1 ∧ R p.1 p.2 q.2) (all xs x?) (all ys y?) := by
    refine List.rel_append (forall₂_mapIdx h fun i x y hxy => ⟨rfl, hxy⟩) ?_
    rw [List.forall₂_map_left_iff, List.forall₂_map_right_iff]
    exact h?.imp fun x y hxy => ⟨rfl, hxy⟩
  refine (forall₂_mem hall).imp ?_
  rintro ⟨branch, x⟩ ⟨_, y⟩ ⟨hx, hy, rfl, hxy⟩
  exact ⟨rfl, mem_all.mp hx, mem_all.mp hy, hxy⟩

/-- Of what is related in order, a branch that leads to something on the left leads to something
related on the right. -/
theorem exists_get?_of_forall₂ {R : Branch → α → β → Prop} {xs : List α} {ys : List β}
    {x? : Option α} {y? : Option β} (h : ∀ i, List.Forall₂ (R (.child i)) xs ys)
    (h? : List.Forall₂ (R .content) x?.toList y?.toList) {branch : Branch} {x : α}
    (hx : get? xs x? branch = some x) : ∃ y, get? ys y? branch = some y ∧ R branch x y := by
  cases branch with
  | child i =>
    obtain ⟨hi, rfl⟩ := List.getElem?_eq_some_iff.mp hx
    have hi' : i < ys.length := (h i).length_eq ▸ hi
    exact ⟨ys[i], List.getElem?_eq_getElem hi', (h i).get hi hi'⟩
  | content =>
    obtain rfl : x? = some x := hx
    cases y? with
    | none => cases h?
    | some y =>
      rw [Option.toList_some, Option.toList_some, List.forall₂_cons] at h?
      exact ⟨y, rfl, h?.1⟩

/-- Where the parent of what a branch leads to is, if the branch starts at a place. A content has no
parent. -/
def parent? (start : Nat) : Branch → Option Nat
  | .child _ => some start
  | .content => none

end Branch

/-- The path to the parent of what a path leads to. Neither what stands at the top nor a content has
a parent. -/
def Path.parent? (path : Path) : Option Path :=
  match path.getLast? with
  | some (.child _) => some path.dropLast
  | _ => none

theorem Path.parent?_child (front : Path) (i : Nat) :
    Path.parent? (front ++ [.child i]) = some front := by
  simp [Path.parent?]

theorem Path.parent?_content (front : Path) : Path.parent? (front ++ [.content]) = none := by
  simp [Path.parent?]

end MarkupTree
