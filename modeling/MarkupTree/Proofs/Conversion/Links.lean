import MarkupTree.Forest.Edit
import MarkupTree.Proofs.Conversion.Steps
import MarkupTree.Proofs.Forest.Planted
import MarkupTree.Proofs.Source.Path

/-!
# Links between converted nodes

A converted tree is linked twice: a node lists its children, and each child knows its parent. After
a conversion the two agree, and both follow the source tree.

Results:

* `paths_of_nodeAt`: the nodes of a converted tree stand at the ends of the paths of the source.
* `linked_of_descend`: how a node is linked, by the last branch of its path.
* `convert_linked`: what this says of the nodes that a walk through a forest reaches.
-/

namespace MarkupTree

namespace Conversion

open Source (Place)

/-- The nodes of a converted tree stand at the ends of the paths of the source, in order. -/
theorem paths_of_nodeAt {schema : Schema} {place : Place} {node : Node}
    (h : nodeAt schema place = .ok node) : node.paths = place.visits.map Place.Visit.path := by
  induction place using Place.induction generalizing schema node with
  | step place ih =>
    have hs := step_of_nodeAt h
    rw [Node.paths_eq, Place.visits_eq, List.map_cons, List.map_flatMap]
    congr 1
    rw [← List.forall₂_eq_eq_eq]
    apply forall₂_flatMap
    have hparts := Branch.forall₂_all
      (R := fun _ node part => nodeAt (schemaAt schema place) part = .ok node)
      (fun _ => hs.children.flip) hs.content.flip
    refine hparts.imp ?_
    rintro ⟨branch, child⟩ ⟨_, part⟩ ⟨rfl, -, hpart, hchild⟩
    have hmem : part ∈ place.parts := Branch.mem_of_get? hpart
    rw [List.forall₂_eq_eq_eq, ih part hmem hchild, List.map_map, List.map_map]
    rfl

end Conversion

namespace Forest

open Conversion
open Source (Place)

/-- How the node at the end of a path is linked into a forest that a tree was converted into: the
root and a content have no parent, and any other node has the one parent that lists it as a child,
once and at the index that the path says. Links to nowhere that the forest held before do not
count. -/
inductive Linked (before forest : Forest) (root : Nat) : Path → Nat → Prop
  | root (parent : forest.parent? root = none) : Linked before forest root [] root
  | content {front : Path} {t n : Nat} (holder : forest.descend root front = some t)
    (content : (forest.cell t).content = some n) (parent : forest.parent? n = none) :
    Linked before forest root (front ++ [.content]) n
  | child {front : Path} {i p n : Nat} (reached : p ∈ forest.order root)
    (holder : forest.descend root front = some p) (parent : forest.parent? n = some p)
    (index : (forest.cell p).children[i]? = some n) (once : (forest.cell p).children.count n = 1)
    (elsewhere : ∀ q ≠ p, n ∈ (forest.cell q).children → n ∈ (before.cell q).children) :
    Linked before forest root (front ++ [.child i]) n

/-- Planting changes no cell outside of the new tree. -/
theorem cell_plant_of_not_mem {forest : Forest} {id : String} {node : Node} {q : Nat}
    (h : q ∉ (forest.plant id node).order forest.cells.size) :
    (forest.plant id node).cell q = forest.cell q := by
  rw [(forest.planted_plant id node).order_eq, List.mem_range'_1] at h
  rw [cell, cell, Array.getD_eq_getD_getElem?, Array.getD_eq_getD_getElem?]
  by_cases hq : q < forest.cells.size
  · rw [plant, bind, Array.getElem?_append_left hq]
  · have hsize : (forest.plant id node).cells.size ≤ q := by
      rw [size_plant]
      omega
    rw [Array.getElem?_eq_none hsize, Array.getElem?_eq_none (Nat.not_lt.mp hq)]

/-- A conversion into a forest plants the converted tree. -/
theorem exists_plant_of_convert {forest forest' : Forest} {id : String} {tree space : Value}
    {asFragment : Bool} (h : forest.convert id tree space asFragment = .ok forest') :
    ∃ node, documentTree tree space asFragment = .ok node ∧ forest' = forest.plant id node := by
  rw [Forest.convert, Outcome.bind_eq_ok] at h
  obtain ⟨node, hnode, h⟩ := h
  exact ⟨node, hnode, (Outcome.pure_eq_ok.mp h).symm⟩

variable {forest : Forest} {root : Nat} {node : Node}

theorem descend_link {path : Path} {branch : Branch} {k n : Nat}
    (hk : forest.descend root path = some k)
    (hn : branch.get? (forest.cell k).children (forest.cell k).content = some n) :
    forest.descend root (path ++ [branch]) = some n := by
  rw [descend_append, hk, Option.bind_some, descend, hn]
  rfl

/-- A child has the node that lists it as its parent. -/
theorem ParentsByPath.of_child (h : forest.ParentsByPath root) {path : Path} {p n : Nat}
    (hp : forest.descend root path = some p) (hn : n ∈ (forest.cell p).children) :
    forest.parent? n = some p := by
  obtain ⟨i, hi⟩ := List.mem_iff_getElem?.mp hn
  have hpath : forest.descend root (path ++ [.child i]) = some n := descend_link hp hi
  rw [h _ _ hpath, Path.parent?_child, Option.bind_some, hp]

theorem ParentsByPath.of_content (h : forest.ParentsByPath root) {path : Path} {t n : Nat}
    (ht : forest.descend root path = some t) (hn : (forest.cell t).content = some n) :
    forest.parent? n = none := by
  have hpath : forest.descend root (path ++ [.content]) = some n := descend_link ht hn
  rw [h _ _ hpath, Path.parent?_content, Option.bind_none]

/-- How a node is linked, by the last branch of its path. -/
theorem linked_of_descend {before : Forest} (h : forest.Planted none root node)
    (hparents : forest.ParentsByPath root)
    (houtside : ∀ q, q ∉ forest.order root → forest.cell q = before.cell q) {path : Path} {n : Nat}
    (hn : forest.descend root path = some n) : Linked before forest root path n := by
  rcases List.eq_nil_or_concat path with rfl | ⟨front, branch, rfl⟩
  · obtain rfl := Option.some.inj hn
    exact .root (hparents [] root rfl)
  · rw [List.concat_eq_append] at hn ⊢
    rw [descend_append, Option.bind_eq_some_iff] at hn
    obtain ⟨k, hk, hn⟩ := hn
    rw [descend, Option.bind_eq_some_iff] at hn
    obtain ⟨n, hlink, hn⟩ := hn
    obtain rfl := Option.some.inj hn
    cases branch with
    | content => exact .content hk hlink (hparents.of_content hk hlink)
    | child i =>
      have hmem : n ∈ (forest.cell k).children := List.mem_of_getElem? hlink
      have hparent := hparents.of_child hk hmem
      obtain ⟨_, -, _, hplanted⟩ := h.at?_of_descend hk
      refine .child (h.mem_order_iff.mpr ⟨front, hk⟩) hk hparent hlink
        (List.count_eq_one_of_mem hplanted.nodup_children hmem) ?_
      intro q hq hn
      by_cases hin : q ∈ forest.order root
      · obtain ⟨path, hpath⟩ := h.mem_order_iff.mp hin
        rw [hparents.of_child hpath hn] at hparent
        exact absurd (Option.some.inj hparent) hq
      · rwa [← houtside q hin]

/-- After a source tree was converted into a forest, a walk from the new root reaches different
nodes, one for each place that a walk through the source meets, and each of them is linked as the
path of its place says. The root has no parent, every child of a node has this node as its parent,
and no content has a parent. -/
theorem convert_linked {forest forest' : Forest} {id : String} {tree space : Value}
    {asFragment : Bool} (h : forest.convert id tree space asFragment = .ok forest') :
    ∃ root, forest'.find id = .ok root ∧ forest'.parent? root = none ∧
      (forest'.order root).Nodup ∧
      List.Forall₂ (fun visit n =>
        (Place.start tree asFragment).at? visit.path = some visit.place ∧
          Linked forest forest' root visit.path n)
        (Place.start tree asFragment).visits (forest'.order root) ∧
      ∀ p ∈ forest'.order root,
        (∀ n ∈ (forest'.cell p).children, forest'.parent? n = some p) ∧
          ∀ n, (forest'.cell p).content = some n → forest'.parent? n = none := by
  obtain ⟨node, hnode, rfl⟩ := exists_plant_of_convert h
  obtain ⟨schema, -, hnode⟩ := exists_nodeAt_of_documentTree hnode
  have hfind : (forest.plant id node).find id = .ok forest.cells.size := find_bind_self _ _ _
  have hplanted := forest.planted_plant id node
  have hparents := hplanted.parentsByPath (mem_live_of_find hfind)
  refine ⟨forest.cells.size, hfind, hparents [] _ rfl, ?_, ?_, ?_⟩
  · rw [hplanted.order_eq]
    exact List.nodup_range'
  · have hpaths := hplanted.descend_paths (size_le_size_plant forest id node)
    rw [paths_of_nodeAt hnode, List.forall₂_map_left_iff] at hpaths
    refine (forall₂_mem hpaths).imp fun visit n hn => ⟨Place.at?_of_mem_visits hn.1, ?_⟩
    exact linked_of_descend hplanted hparents (fun q hq => cell_plant_of_not_mem hq) hn.2.2
  · intro p hp
    obtain ⟨path, hpath⟩ := hplanted.mem_order_iff.mp hp
    exact ⟨fun n hn => hparents.of_child hpath hn, fun n hn => hparents.of_content hpath hn⟩

/-- A root with two equal children and a template, whose content holds a root of its own. -/
def twins : Value :=
  .obj [("type", .str "root"), ("children", .arr
    [.obj [("type", .str "text"), ("value", .str "a")],
     .obj [("type", .str "text"), ("value", .str "a")],
     .obj [("type", .str "element"), ("tagName", .str "template"),
      ("children", .arr [.obj [("type", .str "comment")]]),
      ("content", .obj [("children", .arr
        [.obj [("type", .str "root"), ("children", .arr [.obj [("type", .str "doctype")]])],
         .obj [("type", .str "text"), ("value", .str "a")]])])]])]

theorem convert_linked_twins :
    ∃ forest', Forest.empty.convert "r" twins (.str "html") false = .ok forest' ∧
      ∃ root, forest'.find "r" = .ok root ∧ forest'.parent? root = none ∧
        (forest'.order root).Nodup ∧
        List.Forall₂ (fun visit n =>
          (Place.start twins false).at? visit.path = some visit.place ∧
            Linked Forest.empty forest' root visit.path n)
          (Place.start twins false).visits (forest'.order root) ∧
        ∀ p ∈ forest'.order root,
          (∀ n ∈ (forest'.cell p).children, forest'.parent? n = some p) ∧
            ∀ n, (forest'.cell p).content = some n → forest'.parent? n = none := by
  refine ⟨_, rfl, ?_⟩
  have h : Forest.empty.convert "r" twins (.str "html") false = .ok _ := rfl
  exact convert_linked h

end Forest

end MarkupTree
