import MarkupTree.Proofs.Attribute.Order
import MarkupTree.Proofs.Node.Telling
import MarkupTree.Proofs.Node.Walk

/-!
# Dumps and the order of attributes

A dump shows neither the locations nor the order of the attributes of a tree, as long as the
attributes of each element are shown under different names.

Results:

* `elementLines_eq_of_resembles`: the lines of an element itself.
* `lines_eq_of_resembles`: the lines of a node and everything below it.
* `dump_eq_of_resembles`: trees that are the same up to what is not shown have the same dump, or the
  same failure.
-/

namespace MarkupTree.Node

/-- Whether the attributes of a node, if it is an element, are shown under different names, all of
which are texts. -/
def HasDistinctNames (node : Node) : Prop :=
  ∀ tag attrs uri, node.label.kind = .element tag (some attrs) uri →
    (∀ a ∈ attrs, (nameText? a).isSome) ∧ (attrs.map Attribute.displayName).Nodup

theorem Kind.Resembles.cases {kind kind' : Kind} (h : kind.Resembles kind') :
    kind = kind' ∨ ∃ tag uri attrs attrs', kind = .element tag attrs uri ∧
      kind' = .element tag attrs' uri ∧ Option.Rel List.Perm attrs attrs' := by
  cases kind with
  | element tag attrs uri =>
    cases kind' with
    | element tag' attrs' uri' =>
      obtain ⟨rfl, rfl, hattrs⟩ := h
      exact .inr ⟨tag, uri, attrs, attrs', rfl, rfl, hattrs⟩
    | _ => exact .inl h
  | _ => exact .inl h

variable {label label' : Label} {indent : Int}

theorem hasChildren_eq_of_resembles {kind kind' : Kind} (h : kind.Resembles kind') :
    kind'.hasChildren = kind.hasChildren := by
  rcases h.cases with rfl | ⟨tag, uri, attrs, attrs', rfl, rfl, -⟩ <;> rfl

theorem leafLine_eq_of_resembles (hkind : label.kind.Resembles label'.kind)
    (hname : label.name = label'.name) : leafLine indent label = leafLine indent label' := by
  rcases hkind.cases with he | ⟨tag, uri, attrs, attrs', hk, hk', -⟩
  · rw [leafLine, leafLine, hname, he]
  · rw [leafLine, leafLine, hname, hk, hk']

/-- The lines of an element do not show the order of its attributes. -/
theorem elementLines_eq_of_resembles {node : Node} {kind' : Kind} (h : node.HasDistinctNames)
    (hkind : node.label.kind.Resembles kind') :
    elementLines indent node.label.kind = elementLines indent kind' := by
  rcases hkind.cases with he | ⟨tag, uri, attrs, attrs', hk, rfl, hattrs⟩
  · rw [he]
  · rw [hk]
    cases hattrs with
    | none => rfl
    | some hperm =>
      obtain ⟨htext, hnodup⟩ := h tag _ uri hk
      rw [elementLines, elementLines, attributeLines, attributeLines,
        Attribute.sortAttributes_eq_of_perm hperm htext hnodup]

theorem linesAll_congr {nodes nodes' : List Node}
    (h : List.Forall₂ (fun node node' => lines indent node = lines indent node') nodes nodes') :
    linesAll indent nodes = linesAll indent nodes' := by
  induction h with
  | nil => rfl
  | cons hnode _ ih => rw [linesAll, linesAll, hnode, ih]

/-- Nodes that are the same up to locations and the order of attributes have the same lines, by
themselves, as contents and by their children. -/
theorem lines_eq_of_resembles {node node' : Node} (h : node.Resembles node')
    (hd : ∀ n ∈ node.preorder, n.HasDistinctNames) (indent : Int) :
    lines indent node = lines indent node' ∧
      contentLines indent (some node) = contentLines indent (some node') ∧
      linesAll indent node.children = linesAll indent node'.children := by
  induction node using induction generalizing node' indent with
  | mk label children content ihchildren ihcontent =>
    obtain @⟨_, label', _, children', _, content', hkind, hname, hchildren, hcontent⟩ := h
    have hall : ∀ indent, linesAll indent children = linesAll indent children' := by
      intro indent
      refine linesAll_congr (((List.forall₂_and_left _ _).mpr ⟨fun c hc => hc, hchildren⟩).imp ?_)
      rintro child child' ⟨hc, hchild⟩
      refine (ihchildren child hc hchild (fun n hn => ?_) indent).1
      exact hd n (mem_preorder_of_mem_children hc hn)
    have hinner : contentLines indent content = contentLines indent content' := by
      cases hcontent with
      | none => rfl
      | @some inner inner' hinner =>
        refine (ihcontent inner rfl hinner (fun n hn => ?_) indent).2.1
        exact hd n (mem_preorder_of_mem_content rfl hn)
    have helement : elementLines indent label.kind = elementLines indent label'.kind :=
      elementLines_eq_of_resembles (hd _ (mem_preorder_self _)) hkind
    refine ⟨?_, ?_, hall indent⟩
    · rw [lines, lines, leafLine_eq_of_resembles hkind hname, helement, hinner, hall]
    · rw [contentLines, contentLines, hasChildren_eq_of_resembles hkind, hall]

/-- Trees that are the same up to locations and the order of attributes have the same dump, or the
same failure, if the attributes of each element are shown under different names. -/
theorem dump_eq_of_resembles {root root' : Node} (h : root.Resembles root')
    (hd : ∀ n ∈ root.preorder, n.HasDistinctNames) (indent : Int) :
    root.dump indent = root'.dump indent := by
  obtain ⟨hlines, -, -⟩ := lines_eq_of_resembles h hd indent
  obtain ⟨-, -, hchildren⟩ := lines_eq_of_resembles h hd 0
  cases h with
  | mk hkind hname =>
    rw [dump, dump, dumpLines, dumpLines, label_mk, label_mk, hname, hlines, hchildren,
      hasChildren_eq_of_resembles hkind]

end MarkupTree.Node
