import MarkupTree.Sorting.Search

/-!
# Runs

A run is a part of a list whose items are in order: none comes before the one in front of it. The
order is a test that may fail. A strictly descending part of a list is a run once it is reversed,
and a short run is made longer by putting further items into it.

Results:

* `splitRun_singleton`: a single item is a run, and nothing is tested.
* `insertAll_nil`: without further items a run stays as it is.
-/

namespace MarkupTree.Sorting

variable {ε α : Type}

/-- Splits off the items that go on a run after `last`, each coming before the one in front of it if
the run is `descending`, and not coming before it otherwise. -/
def continueRun (before : α → α → Except ε Bool) (descending : Bool) (last : α) :
    List α → Except ε (List α × List α)
  | [] => .ok ([], [])
  | y :: rest => do
    if (← before y last) == descending then
      let (run, others) ← continueRun before descending y rest
      return (y :: run, others)
    else return ([], y :: rest)

/-- The longest run at the start of a list, in ascending order, and the items behind it. -/
def splitRun (before : α → α → Except ε Bool) : List α → Except ε (List α × List α)
  | x :: y :: rest => do
    let descending ← before y x
    let (run, others) ← continueRun before descending y rest
    return (if descending then (x :: y :: run).reverse else x :: y :: run, others)
  | short => .ok (short, [])

/-- Puts items one after another into a run, each behind the items that it does not come before. The
place is found by halving. -/
def insertAll (before : α → α → Except ε Bool) (run : List α) : List α → Except ε (List α)
  | [] => .ok run
  | x :: rest => do
    let place ← halve (testAt (fun y => do return !(← before x y)) run) 0 run.length
    insertAll before (run.take place ++ x :: run.drop place) rest

/-- A run of at least `least` items at the start of a list, unless the list is shorter, and the
items behind it. -/
def takeRun (before : α → α → Except ε Bool) (least : Nat) (items : List α) :
    Except ε (List α × List α) := do
  let (run, others) ← splitRun before items
  let missing := least - run.length
  return (← insertAll before run (others.take missing), others.drop missing)

@[simp] theorem splitRun_singleton (before : α → α → Except ε Bool) (x : α) :
    splitRun before [x] = .ok ([x], []) := rfl

@[simp] theorem insertAll_nil (before : α → α → Except ε Bool) (run : List α) :
    insertAll before run [] = .ok run := rfl

end MarkupTree.Sorting
