import MarkupTree.Sorting.Merge
import MarkupTree.Sorting.Run

/-!
# Sorting by runs

A list is cut into runs, which are merged with their neighbours in an order that keeps the merges
balanced: each boundary between two runs has a power, the depth at which it would stand in a
balanced tree over the list, and deeper boundaries are merged first. The order of the items is a
test that may fail, and then the sort fails with it.

Results:

* `sort_nil`, `sort_singleton`: nothing is tested in a list of at most one item.
-/

namespace MarkupTree.Sorting

variable {ε α : Type}

/-- The length that runs are brought to in a list of `n` items: `n` itself if it is small, and
otherwise its leading six bits, rounded up. -/
def leastRun (n : Nat) (odd : Bool) : Nat :=
  if 64 ≤ n then leastRun (n / 2) (odd || n % 2 == 1) else n + odd.toNat

/-- The first binary place at which two parts of `n` differ, each given by its double. The number of
places is bounded by `fuel`. -/
def firstDifference (n : Nat) : Nat → Nat → Nat → Nat
  | 0, _, _ => 0
  | fuel + 1, a, b =>
    if n ≤ a then firstDifference n fuel (2 * (a - n)) (2 * (b - n)) + 1
    else if n ≤ b then 1
    else firstDifference n fuel (2 * a) (2 * b) + 1

/-- The power of the boundary between two runs of a list of `n` items, of which the first starts at
`start`: the first binary place at which their middles differ as parts of `n`. -/
def boundaryPower (n start first second : Nat) : Nat :=
  firstDifference n n (2 * start + first) (2 * start + 2 * first + second)

/-- A run that waits to be merged. -/
structure Waiting (α : Type) where
  /-- The place of the run in the list. -/
  start : Nat
  items : List α
  /-- The power of the boundary with the run behind it, if there is one. -/
  power : Nat := 0

namespace Waiting

/-- Merges the last of the waiting runs, which are listed from the last to the first, as long as the
boundary in front of it is deeper than a power. -/
def settle (before : α → α → Except ε Bool) (power : Nat) (patience : Nat) :
    List (Waiting α) → Except ε (List (Waiting α) × Nat)
  | last :: previous :: rest =>
    if power < previous.power then do
      let (items, patience) ← mergeRuns before patience previous.items last.items
      settle before power patience ({ previous with items } :: rest)
    else .ok (last :: previous :: rest, patience)
  | short => .ok (short, patience)
termination_by runs => runs.length

/-- Adds a run of a list of `n` items to the waiting runs. -/
def add (before : α → α → Except ε Bool) (n patience : Nat) (runs : List (Waiting α)) (start : Nat)
    (items : List α) : Except ε (List (Waiting α) × Nat) :=
  match runs with
  | [] => .ok ([{ start, items }], patience)
  | last :: _ => do
    let power := boundaryPower n last.start last.items.length items.length
    let (runs, patience) ← settle before power patience runs
    let runs := match runs with
      | [] => []
      | last :: rest => { last with power } :: rest
    return ({ start, items } :: runs, patience)

/-- Merges all waiting runs. The two last are merged, unless the one in front of them is shorter
than the last; then it is merged with the run behind it. -/
def mergeAll (before : α → α → Except ε Bool) (patience : Nat) :
    List (Waiting α) → Except ε (List α)
  | [] => .ok []
  | [last] => .ok last.items
  | [last, previous] => do
    let (items, _) ← mergeRuns before patience previous.items last.items
    return items
  | last :: previous :: third :: rest =>
    if third.items.length < last.items.length then do
      let (items, patience) ← mergeRuns before patience third.items previous.items
      mergeAll before patience (last :: { third with items } :: rest)
    else do
      let (items, patience) ← mergeRuns before patience previous.items last.items
      mergeAll before patience ({ previous with items } :: third :: rest)
termination_by runs => runs.length

end Waiting

/-- Sorts the rest of a list of `n` items after the waiting runs; `fuel` bounds the number of runs,
and `least` is their length. -/
def sortRest (before : α → α → Except ε Bool) (n least : Nat) :
    Nat → Nat → List (Waiting α) → Nat → List α → Except ε (List α)
  | 0, patience, runs, _, _ => Waiting.mergeAll before patience runs
  | fuel + 1, patience, runs, start, rest =>
    if rest.isEmpty then Waiting.mergeAll before patience runs
    else do
      let (run, others) ← takeRun before least rest
      let (runs, patience) ← Waiting.add before n patience runs start run
      sortRest before n least fuel patience runs (start + run.length) others

/-- Sorts a list; items that do not come before one another keep their order. -/
def sort (before : α → α → Except ε Bool) (items : List α) : Except ε (List α) :=
  let n := items.length
  sortRest before n (leastRun n false) n Merging.longStretch [] 0 items

@[simp] theorem sort_nil (before : α → α → Except ε Bool) : sort before [] = .ok [] := by
  simp [sort, sortRest, Waiting.mergeAll]

@[simp] theorem sort_singleton (before : α → α → Except ε Bool) (x : α) :
    sort before [x] = .ok [x] := by
  simp [sort, sortRest, takeRun, Waiting.add, Waiting.mergeAll, bind, Except.bind, pure,
    Except.pure]

end MarkupTree.Sorting
