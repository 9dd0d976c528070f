import MarkupTree.Forest.Basic

/-!
# Walking a forest

A node of a forest is shown as the tree below it. Links to parents do not keep a node: it lives as
long as it can be reached from an id through children and contents, and a parent that no longer
lives is forgotten.

Results:

* `parent?_of_live`: a parent that lives is known.
* `treeTo_succ`: the tree at a place in terms of the trees below it.
-/

namespace MarkupTree.Forest

/-! ## Trees and document order -/

/-- The tree at a place, down to `depth` levels. -/
def treeTo (forest : Forest) : Nat → Nat → Node
  | 0, _ => .mk ⟨.plain, .null, none⟩ [] none
  | depth + 1, n =>
    let cell := forest.cell n
    .mk cell.label (cell.children.map (treeTo forest depth))
      (cell.content.map (treeTo forest depth))

/-- The tree at a place. No path without a cycle is longer than the number of cells. -/
def tree (forest : Forest) (n : Nat) : Node := forest.treeTo forest.cells.size n

/-- The places below a place and the place itself in document order, down to `depth` levels. -/
def orderTo (forest : Forest) : Nat → Nat → List Nat
  | 0, _ => []
  | depth + 1, n => n :: (forest.cell n).below.flatMap (orderTo forest depth)

/-- The places of a tree in document order. -/
def order (forest : Forest) (n : Nat) : List Nat := forest.orderTo forest.cells.size n

/-! ## Life -/

/-- The places that can be reached from `todo`, added to those already seen; `fuel` bounds the
number of links that are followed. -/
def reach (forest : Forest) : Nat → List Nat → List Nat → List Nat
  | 0, _, seen => seen
  | _ + 1, [], seen => seen
  | fuel + 1, n :: todo, seen =>
    if seen.contains n then reach forest fuel todo seen
    else reach forest fuel ((forest.cell n).below ++ todo) (n :: seen)

/-- The places that can be reached from an id. Every link is followed at most once. -/
def live (forest : Forest) : List Nat :=
  let links := forest.cells.foldl (fun n cell => n + cell.below.length) 0
  forest.reach (forest.ids.length + links + 1) (forest.ids.map Prod.snd) []

/-- The parent of a node, if it is still alive. -/
def parent? (forest : Forest) (n : Nat) : Option Nat :=
  (forest.cell n).parent.filter fun p => forest.live.contains p

/-- How the parent of a node is shown in a listing: by its index, or by its own text if it is not
in the listing. A node that is listed more than once counts at its last place. -/
inductive ParentMark where
  | none
  | index (i : Nat)
  | outside (text : String)
deriving DecidableEq, Repr

/-- The index at which a place occurs last in a list. -/
def lastIndex? (n : Nat) (places : List Nat) : Option Nat :=
  (places.reverse.idxOf? n).map fun i => places.length - 1 - i

/-- The nodes below a place in document order, each with its text and its parent. -/
def listing (forest : Forest) (n : Nat) : List (String × ParentMark) :=
  let order := forest.order n
  let live := forest.live
  order.map fun m =>
    let cell := forest.cell m
    let mark := match cell.parent.filter fun p => live.contains p with
      | Option.none => ParentMark.none
      | some p => match lastIndex? p order with
        | some i => .index i
        | Option.none => .outside (forest.cell p).label.literal
    (cell.label.literal, mark)

theorem parent?_of_live {forest : Forest} {n p : Nat} (h : (forest.cell n).parent = some p)
    (hp : p ∈ forest.live) : forest.parent? n = some p := by
  simp [parent?, h, Option.filter, hp]

theorem treeTo_succ (forest : Forest) (depth n : Nat) :
    forest.treeTo (depth + 1) n =
      .mk (forest.cell n).label ((forest.cell n).children.map (forest.treeTo depth))
        ((forest.cell n).content.map (forest.treeTo depth)) := rfl

end MarkupTree.Forest
