import MarkupTree.Proofs.Node.Walk
import MarkupTree.Proofs.Path

/-!
# Paths in a document tree

Results:

* `paths_eq`: the paths of a tree, in document order.
* `at?_replace`: a new node stands where the old one stood.
* `label_at?_replace`: a replacement at the end of a path changes no node elsewhere.
-/

namespace MarkupTree.Node

/-- The node that a branch leads to. -/
def part? (node : Node) (branch : Branch) : Option Node := branch.get? node.children node.content

/-- The node that a path leads to. -/
def at? (node : Node) : Path → Option Node
  | [] => some node
  | branch :: path => (node.part? branch).bind (at? · path)

/-- The branches from a node, with the nodes that they lead to. -/
def branches (node : Node) : List (Branch × Node) := Branch.all node.children node.content

theorem sizeOf_lt_of_mem_branches {node : Node} {p : Branch × Node} (h : p ∈ node.branches) :
    sizeOf p.2 < sizeOf node := by
  apply sizeOf_lt_of_mem_parts
  rw [parts, ← Branch.map_snd_all]
  exact List.mem_map_of_mem h

theorem size_le_sizeAll {node : Node} {nodes : List Node} (h : node ∈ nodes) :
    node.size ≤ sizeAll nodes := by
  induction nodes with
  | nil => exact absurd h List.not_mem_nil
  | cons first rest ih =>
    rw [sizeAll]
    rcases List.mem_cons.mp h with rfl | h
    · exact Nat.le_add_right _ _
    · exact Nat.le_trans (ih h) (Nat.le_add_left _ _)

theorem size_lt_of_part? {node part : Node} {branch : Branch} (h : node.part? branch = some part) :
    part.size < node.size := by
  obtain ⟨label, children, content⟩ := node
  rw [size]
  cases branch with
  | child i =>
    have := size_le_sizeAll (List.mem_of_getElem? h)
    rw [children_mk] at this
    omega
  | content =>
    obtain rfl : content = some part := h
    rw [sizeOpt]
    omega

/-- The paths to the nodes of a tree, in document order. -/
def paths (node : Node) : List Path :=
  [] :: node.branches.attach.flatMap fun p => (paths p.1.2).map (p.1.1 :: ·)
termination_by sizeOf node
decreasing_by exact sizeOf_lt_of_mem_branches p.2

theorem paths_eq (node : Node) :
    node.paths = [] :: node.branches.flatMap fun p => p.2.paths.map (p.1 :: ·) := by
  rw [paths, List.flatMap_subtype (g := fun p => p.2.paths.map (p.1 :: ·)) (fun _ _ => rfl),
    List.unattach_attach]

/-! ## Replacing a node -/

/-- The node with what a branch leads to changed. -/
def modifyPart (f : Node → Node) : Branch → Node → Node
  | .child i, mk label children content => mk label (children.modify i f) content
  | .content, mk label children content => mk label children (content.map f)

/-- The tree with the node at the end of a path replaced by another. -/
def replace (node : Node) : Path → Node → Node
  | [], new => new
  | branch :: path, new => node.modifyPart (fun part => replace part path new) branch

variable {f : Node → Node}

theorem label_modifyPart (branch : Branch) (node : Node) :
    (node.modifyPart f branch).label = node.label := by
  cases node
  cases branch <;> rfl

theorem part?_modifyPart_self (branch : Branch) (node : Node) :
    (node.modifyPart f branch).part? branch = (node.part? branch).map f := by
  cases node
  cases branch with
  | child i => exact List.getElem?_modify_eq _ _ _
  | content => rfl

theorem part?_modifyPart_of_ne {branch other : Branch} (h : other ≠ branch) (node : Node) :
    (node.modifyPart f branch).part? other = node.part? other := by
  cases node
  cases branch with
  | child i =>
    cases other with
    | child j =>
      have hij : i ≠ j := fun e => h (congrArg Branch.child e.symm)
      exact List.getElem?_modify_ne _ _ hij
    | content => rfl
  | content =>
    cases other with
    | child j => rfl
    | content => exact absurd rfl h

/-- The new node stands where the old one stood. -/
theorem at?_replace {node old : Node} {path : Path} (h : node.at? path = some old) (new : Node) :
    (node.replace path new).at? path = some new := by
  induction path generalizing node with
  | nil => rfl
  | cons branch path ih =>
    rw [at?, Option.bind_eq_some_iff] at h
    obtain ⟨part, hp, h⟩ := h
    rw [replace, at?, part?_modifyPart_self, hp, Option.map_some, Option.bind_some, ih h]

/-- A path that does not lead through the replaced node leads to a node with the same label as
before, or to none as before. -/
theorem label_at?_replace {path other : Path} (h : ¬ path <+: other) (node new : Node) :
    ((node.replace path new).at? other).map label = (node.at? other).map label := by
  induction path generalizing node other with
  | nil => exact absurd List.nil_prefix h
  | cons branch path ih =>
    rw [replace]
    cases other with
    | nil => exact congrArg some (label_modifyPart branch node)
    | cons branch' other =>
      rw [at?, at?]
      by_cases hb : branch' = branch
      · subst hb
        have hpath : ¬ path <+: other := fun hp => h (List.cons_prefix_cons.mpr ⟨rfl, hp⟩)
        rw [part?_modifyPart_self]
        cases node.part? branch' with
        | none => rfl
        | some part => exact ih hpath part
      · rw [part?_modifyPart_of_ne hb]

end MarkupTree.Node
