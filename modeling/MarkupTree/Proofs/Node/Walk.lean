import MarkupTree.Node.Basic

/-!
# Walking a document tree

What is right below a node are its children and, behind them, its content. A walk can keep track of
the nodes that enclose the one it has reached.

Results:

* `preorder_eq`: the document order is the node, followed by the document orders of what is right
  below it.
* `mem_preorder_trans`: what is below a node of a tree is below the tree.
* `occurrencesIn_eq`: a walk that keeps track of the enclosing nodes goes the same way.
* `map_node_occurrences`: it reaches the nodes in document order.
-/

namespace MarkupTree.Node

/-- What is right below a node, in order. -/
def parts (node : Node) : List Node := node.children ++ node.content.toList

theorem preorder_eq (node : Node) : node.preorder = node :: node.parts.flatMap preorder := by
  obtain ⟨label, children, content⟩ := node
  rw [preorder, preorderAll_eq_flatMap, parts, List.flatMap_append]
  cases content with
  | none => rfl
  | some node =>
    rw [preorderOpt, content_mk, Option.toList_some, List.flatMap_singleton]
    rfl

theorem mem_preorder_self (node : Node) : node ∈ node.preorder := by
  rw [preorder_eq]
  exact List.mem_cons_self

theorem mem_preorder_of_mem_parts {node part inner : Node} (hp : part ∈ node.parts)
    (h : inner ∈ part.preorder) : inner ∈ node.preorder := by
  rw [preorder_eq]
  exact List.mem_cons_of_mem _ (List.mem_flatMap.mpr ⟨part, hp, h⟩)

theorem mem_preorder_of_mem_children {node child inner : Node} (hc : child ∈ node.children)
    (h : inner ∈ child.preorder) : inner ∈ node.preorder :=
  mem_preorder_of_mem_parts (List.mem_append_left _ hc) h

theorem mem_preorder_of_mem_content {node content inner : Node} (hc : content ∈ node.content)
    (h : inner ∈ content.preorder) : inner ∈ node.preorder :=
  mem_preorder_of_mem_parts (List.mem_append_right _ (Option.mem_toList.mpr hc)) h

/-- What is below a node of a tree is below the tree. -/
theorem mem_preorder_trans {root node inner : Node} (hn : node ∈ root.preorder)
    (hi : inner ∈ node.preorder) : inner ∈ root.preorder := by
  induction root using induction with
  | mk label children content ihchildren ihcontent =>
    rw [preorder_eq] at hn
    rcases List.mem_cons.mp hn with rfl | hn
    · exact hi
    · obtain ⟨part, hp, hn⟩ := List.mem_flatMap.mp hn
      apply mem_preorder_of_mem_parts hp
      rcases List.mem_append.mp hp with hc | hc
      · exact ihchildren part hc hn
      · exact ihcontent part (Option.mem_toList.mp hc) hn

theorem sizeOf_lt_of_mem_parts {node part : Node} (h : part ∈ node.parts) :
    sizeOf part < sizeOf node := by
  obtain ⟨label, children, content⟩ := node
  rw [mk.sizeOf_spec]
  rcases List.mem_append.mp h with h | h
  · have := List.sizeOf_lt_of_mem h
    rw [children_mk] at this
    omega
  · obtain rfl := Option.mem_toList.mp h
    rw [Option.some.sizeOf_spec]
    omega

/-! ## Enclosing nodes -/

/-- A node in a tree and the nodes that enclose it, from the inside out. A content is enclosed by
its template. -/
structure Occurrence where
  node : Node
  enclosing : List Node

/-- The nodes of a tree in document order, if the tree itself is enclosed by these nodes. -/
def occurrencesIn (enclosing : List Node) (node : Node) : List Occurrence :=
  ⟨node, enclosing⟩ :: node.parts.attach.flatMap fun part => occurrencesIn (node :: enclosing) part.1
termination_by sizeOf node
decreasing_by exact sizeOf_lt_of_mem_parts part.2

/-- The nodes of a tree in document order with the nodes that enclose them. -/
def occurrences (node : Node) : List Occurrence := node.occurrencesIn []

theorem occurrencesIn_eq (enclosing : List Node) (node : Node) :
    node.occurrencesIn enclosing =
      ⟨node, enclosing⟩ :: node.parts.flatMap (occurrencesIn (node :: enclosing)) := by
  rw [occurrencesIn, List.flatMap_subtype (g := occurrencesIn (node :: enclosing)) (fun _ _ => rfl),
    List.unattach_attach]

theorem map_node_occurrencesIn (enclosing : List Node) (node : Node) :
    (node.occurrencesIn enclosing).map Occurrence.node = node.preorder := by
  rw [occurrencesIn_eq, preorder_eq, List.map_cons, List.map_flatMap]
  congr 1
  rw [List.flatMap_def, List.flatMap_def]
  congr 1
  apply List.map_congr_left
  intro part h
  have := sizeOf_lt_of_mem_parts h
  exact map_node_occurrencesIn (node :: enclosing) part
termination_by sizeOf node

/-- The nodes that a walk reaches are those of the document order. -/
theorem map_node_occurrences (node : Node) :
    node.occurrences.map Occurrence.node = node.preorder :=
  node.map_node_occurrencesIn []

end MarkupTree.Node
