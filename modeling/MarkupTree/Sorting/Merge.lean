import MarkupTree.Sorting.Search

/-!
# Merging two runs

Two neighbouring runs become one; of two items that do not come before one another, that of the
first run is put first. What is already in place at the outer ends stays there. The rest is merged
item by item from one end, and as soon as a run has won often enough in a row, by stretches whose
length is found by a search. How many wins are enough is the patience of the merge, which shrinks
while long stretches are found and grows when they are not.

Results:

* `mergeRuns_nil`: merging with nothing changes nothing.
-/

namespace MarkupTree.Sorting

variable {ε α : Type}

/-- The end from which two runs are merged. -/
inductive Side where
  | low
  | high
deriving DecidableEq, Repr

namespace Side

/-- The item of a run that is next from this end. -/
def next? (side : Side) (run : List α) : Option α :=
  match side with
  | low => run.head?
  | high => run.getLast?

/-- The first items of a run from this end, in the order of the run. -/
def taken (side : Side) (count : Nat) (run : List α) : List α :=
  match side with
  | low => run.take count
  | high => run.drop (run.length - count)

/-- What is left of a run without its first items from this end. -/
def left (side : Side) (count : Nat) (run : List α) : List α :=
  match side with
  | low => run.drop count
  | high => run.take (run.length - count)

/-- Items put behind others, seen from this end. -/
def join (side : Side) (items more : List α) : List α :=
  match side with
  | low => items ++ more
  | high => more ++ items

/-- The number of items from this end before the boundary of a test, which holds below it. -/
def reach (side : Side) (test : α → Except ε Bool) (run : List α) : Except ε Nat :=
  match side with
  | low => gallop test run 0
  | high => do return run.length - (← gallop test run (run.length - 1))

end Side

/-- Two runs that are being merged: what is left of them, and the merged items in order. -/
structure Merging (α : Type) where
  first : List α
  second : List α
  merged : List α := []

namespace Merging

/-- Whether the rest is in order: a run is used up, or only the outermost item of the other end is
left of it. -/
def isDone (m : Merging α) : Side → Bool
  | .low => m.second.isEmpty || decide (m.first.length ≤ 1)
  | .high => m.first.isEmpty || decide (m.second.length ≤ 1)

/-- All items in order, once the rest is in order. -/
def items (m : Merging α) (side : Side) : List α := side.join m.merged (m.second ++ m.first)

/-- Takes items of the first run. -/
def takeFirst (m : Merging α) (side : Side) (count : Nat) : Merging α :=
  { m with first := side.left count m.first
           merged := side.join m.merged (side.taken count m.first) }

/-- Takes items of the second run. -/
def takeSecond (m : Merging α) (side : Side) (count : Nat) : Merging α :=
  { m with second := side.left count m.second
           merged := side.join m.merged (side.taken count m.second) }

/-- Whether the next item is one of the first run. -/
def firstWins (m : Merging α) (before : α → α → Except ε Bool) (side : Side) : Except ε Bool :=
  match side.next? m.first, side.next? m.second with
  | some x, some y => do
    let swapped ← before y x
    return swapped == (side == .high)
  | _, _ => .ok true

/-- How many items of the first run come up before the next one of the second. -/
def firstReach (m : Merging α) (before : α → α → Except ε Bool) (side : Side) : Except ε Nat :=
  match side.next? m.second with
  | some y => side.reach (fun x => do return !(← before y x)) m.first
  | none => .ok 0

/-- How many items of the second run come up before the next one of the first. -/
def secondReach (m : Merging α) (before : α → α → Except ε Bool) (side : Side) : Except ε Nat :=
  match side.next? m.first with
  | some x => side.reach (fun y => before y x) m.second
  | none => .ok 0

/-- Takes a stretch of the first run and the item of the second that ends it, then a stretch of the
second and the item of the first that ends it. The length of the longer stretch is told. -/
def takeStretches (m : Merging α) (before : α → α → Except ε Bool) (side : Side) :
    Except ε (Merging α × Nat) := do
  let i ← m.firstReach before side
  let m := m.takeFirst side i
  if m.isDone side then return (m, i)
  let m := m.takeSecond side 1
  if m.isDone side then return (m, i)
  let j ← m.secondReach before side
  let m := m.takeSecond side j
  if m.isDone side then return (m, max i j)
  return (m.takeFirst side 1, max i j)

/-- How a merge goes on. -/
inductive Pace where
  /-- Item by item, after so many wins in a row of either run. -/
  | items (first second : Nat)
  | stretches

/-- The length from which on a stretch is long. -/
def longStretch : Nat := 7

/-- Merges until the rest is in order; `fuel` bounds the number of items. The result comes with the
patience that is left. -/
def run (before : α → α → Except ε Bool) (side : Side) :
    Nat → Pace → Nat → Merging α → Except ε (List α × Nat)
  | 0, _, patience, m => .ok (m.items side, patience)
  | fuel + 1, pace, patience, m =>
    if m.isDone side then .ok (m.items side, patience)
    else match pace with
      | .items i j => do
        if ← m.firstWins before side then
          run before side fuel (if patience ≤ i + 1 then .stretches else .items (i + 1) 0) patience
            (m.takeFirst side 1)
        else
          run before side fuel (if patience ≤ j + 1 then .stretches else .items 0 (j + 1)) patience
            (m.takeSecond side 1)
      | .stretches => do
        let (m, longest) ← m.takeStretches before side
        if m.isDone side then return (m.items side, patience)
        if longStretch ≤ longest then run before side fuel .stretches (max 1 (patience - 1)) m
        else run before side fuel (.items 0 0) (patience + 1) m

end Merging

/-- Merges two runs of which the first item is one of the second run and the last item one of the
first. The shorter run decides the end from which they are merged. -/
def interleave (before : α → α → Except ε Bool) (patience : Nat) (first second : List α) :
    Except ε (List α × Nat) :=
  let m : Merging α := { first, second }
  let fuel := first.length + second.length
  if first.length ≤ second.length then
    Merging.run before .low fuel (.items 0 0) patience (m.takeSecond .low 1)
  else Merging.run before .high fuel (.items 0 0) patience (m.takeFirst .high 1)

/-- Merges two neighbouring runs. The result comes with the patience that is left. -/
def mergeRuns (before : α → α → Except ε Bool) (patience : Nat) (first second : List α) :
    Except ε (List α × Nat) :=
  match first.getLast?, second.head? with
  | some x, some y => do
    let i ← gallop (fun x => do return !(← before y x)) first 0
    if i = first.length then return (first ++ second, patience)
    let j ← gallop (fun y => before y x) second (second.length - 1)
    if j = 0 then return (first ++ second, patience)
    let (merged, patience) ← interleave before patience (first.drop i) (second.take j)
    return (first.take i ++ merged ++ second.drop j, patience)
  | _, _ => .ok (first ++ second, patience)

@[simp] theorem mergeRuns_nil (before : α → α → Except ε Bool) (patience : Nat) (run : List α) :
    mergeRuns before patience [] run = .ok (run, patience) := by
  simp [mergeRuns]

end MarkupTree.Sorting
