import MarkupTree.Proofs.Forest.Life
import MarkupTree.Proofs.Forest.Planting
import MarkupTree.Proofs.Node.Path

/-!
# Links of a planted tree

The cells of a planted tree are linked in two ways: downwards to children and contents, and upwards
from each child to its parent. Both say the same of the tree.

Results:

* `Planted.children`, `Planted.content`: what is right below a planted node is planted itself, with
  that node as its parent if it is a child and with no parent if it is a content.
* `Planted.parent_of_descend`: the parent of a place is the place where its path comes from.
* `Planted.descend_paths`: a walk reaches each place at the end of its path.
* `Planted.order_eq`: the places of a planted tree are consecutive.
* `Planted.descend_replace`: the place of a node is the same after the node was replaced.
* `Planted.parentsByPath`: what the places along the paths say of the parents that live.
-/

namespace MarkupTree.Forest

variable {forest : Forest}

/-- Whether a tree stands in a forest from a place on, where its root has this parent. -/
structure Planted (forest : Forest) (parent : Option Nat) (start : Nat) (node : Node) : Prop where
  holds : forest.Holds start (cellsOf start parent node)
  fits : start + node.size ≤ forest.cells.size

theorem size_plant (forest : Forest) (id : String) (node : Node) :
    (forest.plant id node).cells.size = forest.cells.size + node.size := by
  simp [plant, bind, length_cellsOf]

theorem planted_plant (forest : Forest) (id : String) (node : Node) :
    (forest.plant id node).Planted none forest.cells.size node where
  holds := forest.holds_plant id node
  fits := Nat.le_of_eq (size_plant forest id node).symm

theorem le_of_mem_places {start m : Nat} {nodes : List Node} (h : m ∈ places start nodes) :
    start ≤ m := by
  induction nodes generalizing start with
  | nil => exact absurd h List.not_mem_nil
  | cons node rest ih =>
    rcases List.mem_cons.mp h with rfl | h
    · exact Nat.le_refl _
    · exact Nat.le_trans (Nat.le_add_right _ _) (ih h)

theorem nodup_places (start : Nat) (nodes : List Node) : (places start nodes).Nodup := by
  induction nodes generalizing start with
  | nil => exact .nil
  | cons node rest ih =>
    refine List.nodup_cons.mpr ⟨fun h => ?_, ih _⟩
    have hle := le_of_mem_places h
    have hpos := node.size_pos
    omega

namespace Planted

variable {parent : Option Nat} {start : Nat} {node : Node}

theorem tree_eq (h : forest.Planted parent start node) : forest.tree start = node :=
  treeTo_of_holds node h.holds (Nat.le_trans (Nat.le_add_left _ _) h.fits)

/-! ## What is right below -/

theorem cell_eq (h : forest.Planted parent start node) :
    forest.cell start =
      { label := node.label
        children := places (start + 1) node.children
        content := node.content.map fun _ => start + 1 + Node.sizeAll node.children
        parent := parent } := by
  obtain ⟨label, children, content⟩ := node
  have hholds := h.holds
  rw [cellsOf] at hholds
  exact hholds.1

theorem forall₂_places {nodes : List Node} {p : Nat}
    (h : forest.Holds start (cellsOfAll start p nodes))
    (hf : start + Node.sizeAll nodes ≤ forest.cells.size) :
    List.Forall₂ (fun node m => forest.Planted (some p) m node) nodes (places start nodes) := by
  induction nodes generalizing start with
  | nil => exact .nil
  | cons node rest ih =>
    rw [cellsOfAll, holds_append, length_cellsOf] at h
    rw [Node.sizeAll] at hf
    exact .cons ⟨h.1, by omega⟩ (ih h.2 (by omega))

/-- The children of a planted node are planted with this node as their parent. -/
theorem children (h : forest.Planted parent start node) :
    List.Forall₂ (fun child m => forest.Planted (some start) m child)
      node.children (forest.cell start).children := by
  rw [h.cell_eq]
  obtain ⟨label, children, content⟩ := node
  obtain ⟨hholds, hfits⟩ := h
  rw [cellsOf] at hholds
  rw [Node.size] at hfits
  exact forall₂_places (holds_append.mp hholds.2).1 (by rw [Node.children_mk]; omega)

/-- The content of a planted node is planted without a parent. -/
theorem content (h : forest.Planted parent start node) :
    List.Forall₂ (fun content m => forest.Planted none m content)
      node.content.toList (forest.cell start).content.toList := by
  rw [h.cell_eq]
  obtain ⟨label, children, content⟩ := node
  obtain ⟨hholds, hfits⟩ := h
  cases content with
  | none => exact .nil
  | some node =>
    rw [cellsOf] at hholds
    rw [Node.size, Node.sizeOpt] at hfits
    have hcontent := (holds_append.mp hholds.2).2
    rw [length_cellsOfAll] at hcontent
    have hplanted : forest.Planted none (start + 1 + Node.sizeAll children) node :=
      ⟨hcontent, by omega⟩
    exact .cons hplanted .nil

end Planted

/-! ## Paths -/

/-- The place that a path from another place leads to. -/
def descend (forest : Forest) (n : Nat) : Path → Option Nat
  | [] => some n
  | branch :: path =>
    (branch.get? (forest.cell n).children (forest.cell n).content).bind (descend forest · path)

theorem descend_append (n : Nat) (path path' : Path) :
    forest.descend n (path ++ path') = (forest.descend n path).bind (forest.descend · path') := by
  induction path generalizing n with
  | nil => rfl
  | cons branch path ih =>
    rw [List.cons_append, descend, descend]
    cases branch.get? (forest.cell n).children (forest.cell n).content with
    | none => rfl
    | some m => exact ih m

namespace Planted

variable {parent : Option Nat} {start : Nat} {node : Node}

/-- What a branch leads to from a planted node is planted, with this node as its parent unless it is
a content. -/
theorem part (h : forest.Planted parent start node) {branch : Branch} {part : Node}
    (hp : node.part? branch = some part) :
    ∃ m, branch.get? (forest.cell start).children (forest.cell start).content = some m ∧
      forest.Planted (branch.parent? start) m part :=
  Branch.exists_get?_of_forall₂ (R := fun branch part m => forest.Planted (branch.parent? start) m part)
    (fun _ => h.children) h.content hp

/-- A planted node has what the links from its place lead to. -/
theorem part_of_link (h : forest.Planted parent start node) {branch : Branch} {m : Nat}
    (hm : branch.get? (forest.cell start).children (forest.cell start).content = some m) :
    ∃ part, node.part? branch = some part ∧ forest.Planted (branch.parent? start) m part :=
  Branch.exists_get?_of_forall₂ (R := fun branch m part => forest.Planted (branch.parent? start) m part)
    (fun _ => h.children.flip) h.content.flip hm

/-- A path leads to the same node in a planted tree and in the forest. -/
theorem descend_of_at? (h : forest.Planted parent start node) {path : Path} {part : Node}
    (hp : node.at? path = some part) :
    ∃ m, forest.descend start path = some m ∧ ∃ holder, forest.Planted holder m part := by
  induction path generalizing parent start node with
  | nil =>
    obtain rfl := Option.some.inj hp
    exact ⟨start, rfl, parent, h⟩
  | cons branch path ih =>
    rw [Node.at?, Option.bind_eq_some_iff] at hp
    obtain ⟨next, hnext, hp⟩ := hp
    obtain ⟨m, hm, hplanted⟩ := h.part hnext
    rw [descend, hm]
    exact ih hplanted hp

theorem at?_of_descend (h : forest.Planted parent start node) {path : Path} {m : Nat}
    (hm : forest.descend start path = some m) :
    ∃ part, node.at? path = some part ∧ ∃ holder, forest.Planted holder m part := by
  induction path generalizing parent start node with
  | nil =>
    obtain rfl := Option.some.inj hm
    exact ⟨node, rfl, parent, h⟩
  | cons branch path ih =>
    rw [descend, Option.bind_eq_some_iff] at hm
    obtain ⟨k, hk, hm⟩ := hm
    obtain ⟨next, hnext, hplanted⟩ := h.part_of_link hk
    rw [Node.at?, hnext]
    exact ih hplanted hm

/-- The parent of a place is the place where the last branch to it starts. -/
theorem parent_of_descend (h : forest.Planted none start node) {path : Path} {m : Nat}
    (hm : forest.descend start path = some m) :
    (forest.cell m).parent = (Path.parent? path).bind (forest.descend start) := by
  rcases List.eq_nil_or_concat path with rfl | ⟨front, branch, rfl⟩
  · obtain rfl := Option.some.inj hm
    rw [h.cell_eq]
    rfl
  · rw [List.concat_eq_append] at hm ⊢
    rw [descend_append, Option.bind_eq_some_iff] at hm
    obtain ⟨k, hk, hm⟩ := hm
    obtain ⟨_, -, _, hplanted⟩ := h.at?_of_descend hk
    rw [descend, Option.bind_eq_some_iff] at hm
    obtain ⟨m, hlink, hm⟩ := hm
    obtain rfl := Option.some.inj hm
    obtain ⟨_, -, hpart⟩ := hplanted.part_of_link hlink
    rw [hpart.cell_eq]
    cases branch with
    | child i => rw [Path.parent?_child, Option.bind_some, hk, Branch.parent?]
    | content => rw [Path.parent?_content, Branch.parent?, Option.bind_none]

/-! ## The walk -/

/-- A walk reaches each node at the end of its path. -/
theorem descend_paths (h : forest.Planted parent start node) {depth : Nat}
    (hd : node.size ≤ depth) :
    List.Forall₂ (fun path m => forest.descend start path = some m) node.paths
      (forest.orderTo depth start) := by
  induction depth generalizing parent start node with
  | zero => exact absurd hd (Nat.not_le.mpr node.size_pos)
  | succ depth ih =>
    rw [Node.paths_eq, orderTo, Cell.below, ← Branch.map_snd_all, List.flatMap_map]
    refine .cons rfl (forall₂_flatMap ?_)
    have hlinks := Branch.forall₂_all
      (R := fun branch part m => forest.Planted (branch.parent? start) m part)
      (fun _ => h.children) h.content
    refine hlinks.imp ?_
    rintro ⟨branch, part⟩ ⟨_, m⟩ ⟨rfl, hpart, hm, hplanted⟩
    have hsize := Node.size_lt_of_part? hpart
    rw [List.forall₂_map_left_iff]
    refine (ih hplanted (by omega)).imp fun path n hn => ?_
    rw [descend, hm, Option.bind_some, hn]

/-- What a path leads to is reached by the walk. -/
theorem mem_orderTo_of_descend (h : forest.Planted parent start node) {depth m : Nat}
    (hd : node.size ≤ depth) {path : Path} (hm : forest.descend start path = some m) :
    m ∈ forest.orderTo depth start := by
  induction depth generalizing parent start node path with
  | zero => exact absurd hd (Nat.not_le.mpr node.size_pos)
  | succ depth ih =>
    rw [orderTo, List.mem_cons, List.mem_flatMap]
    cases path with
    | nil => exact Or.inl (Option.some.inj hm).symm
    | cons branch path =>
      rw [descend, Option.bind_eq_some_iff] at hm
      obtain ⟨k, hk, hm⟩ := hm
      obtain ⟨part, hpart, hplanted⟩ := h.part_of_link hk
      have hsize := Node.size_lt_of_part? hpart
      exact Or.inr ⟨k, Branch.mem_of_get? hk, ih hplanted (by omega) hm⟩

theorem order_eq (h : forest.Planted parent start node) :
    forest.order start = List.range' start node.size :=
  orderTo_consecutive node h.holds (Nat.le_trans (Nat.le_add_left _ _) h.fits)

/-- A walk reaches exactly what paths lead to. -/
theorem mem_order_iff (h : forest.Planted parent start node) {m : Nat} :
    m ∈ forest.order start ↔ ∃ path, forest.descend start path = some m := by
  have hfits : node.size ≤ forest.cells.size := Nat.le_trans (Nat.le_add_left _ _) h.fits
  constructor
  · intro hm
    obtain ⟨path, -, hpath⟩ := exists_of_forall₂_right (h.descend_paths hfits) hm
    exact ⟨path, hpath⟩
  · rintro ⟨path, hm⟩
    exact h.mem_orderTo_of_descend hfits hm

/-- No child of a planted node is listed twice. -/
theorem nodup_children (h : forest.Planted parent start node) :
    (forest.cell start).children.Nodup := by
  rw [h.cell_eq]
  exact nodup_places _ _

/-! ## Replacements -/

/-- A change of one tree does not move the trees before it, nor the place where it starts. -/
theorem getElem?_places_modify (start : Nat) (nodes : List Node) (i : Nat) (f : Node → Node) :
    (places start (nodes.modify i f))[i]? = (places start nodes)[i]? := by
  induction nodes generalizing start i with
  | nil => rw [List.modify_nil]
  | cons node rest ih =>
    cases i with
    | zero => rfl
    | succ i => exact ih (start + node.size) i

/-- After a replacement the part in which it was made stands where it stood. -/
theorem link_modifyPart {forest' : Forest} {parent' : Option Nat} {f : Node → Node} {branch : Branch}
    (h : forest.Planted parent start node)
    (h' : forest'.Planted parent' start (node.modifyPart f branch)) :
    branch.get? (forest'.cell start).children (forest'.cell start).content =
      branch.get? (forest.cell start).children (forest.cell start).content := by
  rw [h.cell_eq, h'.cell_eq]
  obtain ⟨label, children, content⟩ := node
  cases branch with
  | child i => exact getElem?_places_modify _ _ _ _
  | content => cases content <;> rfl

/-- A replacement at the end of a path moves none of the places along the path. -/
theorem descend_replace {forest' : Forest} {parent' : Option Nat} {path front : Path} {new : Node}
    (h : forest.Planted parent start node)
    (h' : forest'.Planted parent' start (node.replace path new)) (hf : front <+: path) :
    forest'.descend start front = forest.descend start front := by
  induction front generalizing parent parent' start node path with
  | nil => rfl
  | cons branch front ih =>
    obtain ⟨rest, rfl⟩ := hf
    rw [List.cons_append, Node.replace] at h'
    rw [descend, descend, link_modifyPart h h']
    cases hm : branch.get? (forest.cell start).children (forest.cell start).content with
    | none => rfl
    | some m =>
      obtain ⟨part, hpart, hplanted⟩ := h.part_of_link hm
      obtain ⟨part', hpart', hplanted'⟩ := h'.part_of_link ((link_modifyPart h h').trans hm)
      rw [Node.part?_modifyPart_self, hpart, Option.map_some, Option.some.injEq] at hpart'
      subst hpart'
      exact ih hplanted hplanted' (List.prefix_append front rest)

end Planted

/-! ## Parents that live -/

theorem mem_live_of_descend {n m : Nat} (h : n ∈ forest.live) {path : Path}
    (hm : forest.descend n path = some m) : m ∈ forest.live := by
  induction path generalizing n with
  | nil => exact Option.some.inj hm ▸ h
  | cons branch path ih =>
    rw [descend, Option.bind_eq_some_iff] at hm
    obtain ⟨k, hk, hm⟩ := hm
    exact ih (forest.live_spec.2 n h k (Branch.mem_of_get? hk)) hm

/-- Whether the parent of each node below a root is the node where the last branch to it starts,
and the root and the contents have no parent. -/
def ParentsByPath (forest : Forest) (root : Nat) : Prop :=
  ∀ path n, forest.descend root path = some n →
    forest.parent? n = (Path.parent? path).bind (forest.descend root)

theorem Planted.parentsByPath {root : Nat} {node : Node} (h : forest.Planted none root node)
    (hlive : root ∈ forest.live) : forest.ParentsByPath root := by
  intro path n hn
  have hpath := h.parent_of_descend hn
  rw [← hpath]
  cases hp : (forest.cell n).parent with
  | none =>
    rw [parent?, hp]
    rfl
  | some p =>
    rw [hp] at hpath
    obtain ⟨front, -, hfront⟩ := Option.bind_eq_some_iff.mp hpath.symm
    exact parent?_of_live hp (mem_live_of_descend hlive hfront)

end MarkupTree.Forest
