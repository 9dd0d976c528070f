import MarkupTree.Forest.Walk

/-!
# Reading a planted tree back

A tree is planted as a run of cells. Whatever else a forest holds, the tree that is read from the
first cell of the run is the one that was planted, and a walk through the forest from there goes
through its nodes in document order.

Results:

* `holds_plant`: planting puts the cells of a tree behind those of the forest.
* `tree_plant`: the tree is read back.
* `order_plant`: the walk reaches the nodes of the tree in document order.
-/

namespace MarkupTree.Forest

variable {forest : Forest}

/-- Whether a forest has this run of cells from a place on. -/
def Holds (forest : Forest) : Nat → List Cell → Prop
  | _, [] => True
  | start, cell :: rest => forest.cell start = cell ∧ Holds forest (start + 1) rest

theorem holds_append {start : Nat} {xs ys : List Cell} :
    forest.Holds start (xs ++ ys) ↔
      forest.Holds start xs ∧ forest.Holds (start + xs.length) ys := by
  induction xs generalizing start with
  | nil => simp [Holds]
  | cons cell rest ih =>
    rw [List.cons_append, Holds, Holds, ih, List.length_cons, and_assoc, Nat.add_assoc,
      Nat.add_comm 1]

theorem holds_of_cells {cells : Array Cell} {added : List Cell}
    (h : forest.cells = cells ++ added.toArray) : forest.Holds cells.size added := by
  induction added generalizing cells with
  | nil => trivial
  | cons cell rest ih =>
    refine ⟨?_, ?_⟩
    · rw [Forest.cell, h]
      simp [Array.getD_eq_getD_getElem?]
    · rw [← Array.size_push cell]
      apply ih
      rw [h]
      simp

theorem holds_plant (forest : Forest) (id : String) (node : Node) :
    (forest.plant id node).Holds forest.cells.size (cellsOf forest.cells.size none node) :=
  holds_of_cells rfl

/-! ## The tree -/

mutual

/-- A tree that is held in a run of cells is read from the first of them. -/
theorem treeTo_of_holds : ∀ (node : Node) {start depth : Nat} {parent : Option Nat},
    forest.Holds start (cellsOf start parent node) → node.size ≤ depth →
      forest.treeTo depth start = node
  | .mk label children content, start, depth, parent, h, hd => by
    rw [cellsOf] at h
    rw [Node.size] at hd
    obtain ⟨hcell, hrest⟩ := h
    obtain ⟨hchildren, hcontent⟩ := holds_append.mp hrest
    rw [length_cellsOfAll] at hcontent
    obtain ⟨d, rfl⟩ : ∃ d, depth = d + 1 := ⟨depth - 1, by omega⟩
    rw [treeTo_succ, hcell, treeTo_of_holdsAll children hchildren (by omega),
      treeTo_of_holdsOpt content hcontent (by omega)]

theorem treeTo_of_holdsAll : ∀ (nodes : List Node) {start depth parent : Nat},
    forest.Holds start (cellsOfAll start parent nodes) → Node.sizeAll nodes ≤ depth →
      (places start nodes).map (forest.treeTo depth) = nodes
  | [], _, _, _, _, _ => rfl
  | node :: rest, start, depth, parent, h, hd => by
    rw [cellsOfAll, holds_append, length_cellsOf] at h
    rw [Node.sizeAll] at hd
    rw [places, List.map_cons, treeTo_of_holds node h.1 (by omega),
      treeTo_of_holdsAll rest h.2 (by omega)]

theorem treeTo_of_holdsOpt : ∀ (content : Option Node) {start depth : Nat},
    forest.Holds start (cellsOfOpt start content) → Node.sizeOpt content ≤ depth →
      (content.map fun _ => start).map (forest.treeTo depth) = content
  | none, _, _, _, _ => rfl
  | some node, start, depth, h, hd => by
    rw [Option.map_some, Option.map_some, treeTo_of_holds node h hd]

end

theorem size_le_size_plant (forest : Forest) (id : String) (node : Node) :
    node.size ≤ (forest.plant id node).cells.size := by
  simp [plant, bind, length_cellsOf]

/-- A planted tree is read back from its first place. -/
theorem tree_plant (forest : Forest) (id : String) (node : Node) :
    (forest.plant id node).tree forest.cells.size = node :=
  treeTo_of_holds node (forest.holds_plant id node) (forest.size_le_size_plant id node)

/-! ## The document order -/

mutual

/-- The places of a tree that is held in a run of cells are consecutive. -/
theorem orderTo_consecutive : ∀ (node : Node) {start depth : Nat} {parent : Option Nat},
    forest.Holds start (cellsOf start parent node) → node.size ≤ depth →
      forest.orderTo depth start = List.range' start node.size
  | .mk label children content, start, depth, parent, h, hd => by
    rw [cellsOf] at h
    rw [Node.size] at hd
    obtain ⟨hcell, hrest⟩ := h
    obtain ⟨hchildren, hcontent⟩ := holds_append.mp hrest
    rw [length_cellsOfAll] at hcontent
    obtain ⟨d, rfl⟩ : ∃ d, depth = d + 1 := ⟨depth - 1, by omega⟩
    rw [orderTo, hcell, Cell.below, List.flatMap_append,
      orderTo_consecutiveAll children hchildren (by omega),
      orderTo_consecutiveOpt content hcontent (by omega), List.range'_append_1, ← List.range'_succ,
      Node.size]
    congr 1
    omega

theorem orderTo_consecutiveAll : ∀ (nodes : List Node) {start depth parent : Nat},
    forest.Holds start (cellsOfAll start parent nodes) → Node.sizeAll nodes ≤ depth →
      (places start nodes).flatMap (forest.orderTo depth) =
        List.range' start (Node.sizeAll nodes)
  | [], _, _, _, _, _ => rfl
  | node :: rest, start, depth, parent, h, hd => by
    rw [cellsOfAll, holds_append, length_cellsOf] at h
    rw [Node.sizeAll] at hd
    rw [places, List.flatMap_cons, orderTo_consecutive node h.1 (by omega),
      orderTo_consecutiveAll rest h.2 (by omega), List.range'_append_1, Node.sizeAll]

theorem orderTo_consecutiveOpt : ∀ (content : Option Node) {start depth : Nat},
    forest.Holds start (cellsOfOpt start content) → Node.sizeOpt content ≤ depth →
      (content.map fun _ => start).toList.flatMap (forest.orderTo depth) =
        List.range' start (Node.sizeOpt content)
  | none, _, _, _, _ => rfl
  | some node, start, depth, h, hd => by
    rw [Option.map_some, Option.toList_some, List.flatMap_singleton, orderTo_consecutive node h hd,
      Node.sizeOpt]

end

mutual

/-- A walk through the cells of a tree reaches its nodes in document order. -/
theorem orderTo_of_holds : ∀ (node : Node) {start depth depth' : Nat} {parent : Option Nat},
    forest.Holds start (cellsOf start parent node) → node.size ≤ depth → node.size ≤ depth' →
      (forest.orderTo depth start).map (forest.treeTo depth') = node.preorder
  | .mk label children content, start, depth, depth', parent, h, hd, hd' => by
    have htree := treeTo_of_holds (.mk label children content) h hd'
    rw [cellsOf] at h
    rw [Node.size] at hd hd'
    obtain ⟨hcell, hrest⟩ := h
    obtain ⟨hchildren, hcontent⟩ := holds_append.mp hrest
    rw [length_cellsOfAll] at hcontent
    obtain ⟨d, rfl⟩ : ∃ d, depth = d + 1 := ⟨depth - 1, by omega⟩
    rw [orderTo, List.map_cons, htree, hcell, Cell.below, List.flatMap_append, List.map_append,
      orderTo_of_holdsAll children hchildren (by omega) (by omega),
      orderTo_of_holdsOpt content hcontent (by omega) (by omega), Node.preorder]

theorem orderTo_of_holdsAll : ∀ (nodes : List Node) {start depth depth' parent : Nat},
    forest.Holds start (cellsOfAll start parent nodes) → Node.sizeAll nodes ≤ depth →
      Node.sizeAll nodes ≤ depth' →
      ((places start nodes).flatMap (forest.orderTo depth)).map (forest.treeTo depth') =
        Node.preorderAll nodes
  | [], _, _, _, _, _, _, _ => rfl
  | node :: rest, start, depth, depth', parent, h, hd, hd' => by
    rw [cellsOfAll, holds_append, length_cellsOf] at h
    rw [Node.sizeAll] at hd hd'
    rw [places, List.flatMap_cons, List.map_append, orderTo_of_holds node h.1 (by omega) (by omega),
      orderTo_of_holdsAll rest h.2 (by omega) (by omega), Node.preorderAll]

theorem orderTo_of_holdsOpt : ∀ (content : Option Node) {start depth depth' : Nat},
    forest.Holds start (cellsOfOpt start content) → Node.sizeOpt content ≤ depth →
      Node.sizeOpt content ≤ depth' →
      ((content.map fun _ => start).toList.flatMap (forest.orderTo depth)).map
        (forest.treeTo depth') = Node.preorderOpt content
  | none, _, _, _, _, _, _ => rfl
  | some node, start, depth, depth', h, hd, hd' => by
    rw [Option.map_some, Option.toList_some, List.flatMap_singleton,
      orderTo_of_holds node h hd hd', Node.preorderOpt]

end

/-- A walk from the first place of a planted tree reaches its nodes in document order. -/
theorem order_plant (forest : Forest) (id : String) (node : Node) :
    ((forest.plant id node).order forest.cells.size).map (forest.plant id node).tree =
      node.preorder :=
  orderTo_of_holds node (forest.holds_plant id node) (forest.size_le_size_plant id node)
    (forest.size_le_size_plant id node)

end MarkupTree.Forest
