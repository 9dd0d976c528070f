import MarkupTree.Proofs.Conversion.Attributes
import MarkupTree.Proofs.Conversion.Failing
import MarkupTree.Proofs.Node.Rows

/-!
# The lines of a dump

The dump of a converted document or fragment, cut at its line breaks, is the list of its rows, as
long as nothing that is shown in it has a line break itself.

Results:

* `isStandard_of_step`: the node of one step is standard.
* `isUnbroken_of_step`: what its rows show has no line breaks.
* `splitOn_dump`: the lines of a dump.
-/

namespace MarkupTree

/-! ## Line breaks -/

namespace Node

/-- Whether a value is shown without line breaks. -/
def HasNoBreak (v : Value) : Prop := '\n' ∉ v.display.toList

/-- Whether all that a node shows is without line breaks: the tag of an element, the names and the
values of its attributes, a text and a comment. -/
def Kind.HasNoBreaks : Kind → Prop
  | .element tag attrs _ =>
    HasNoBreak tag ∧ ∀ a ∈ attrs.getD [], HasNoBreak a.name ∧ HasNoBreak a.value
  | .text value => HasNoBreak value
  | .comment data => HasNoBreak data
  | _ => True

theorem Kind.isUnbroken_line {kind : Kind} (h : kind.HasNoBreaks) : kind.line.IsUnbroken := by
  cases kind with
  | text value => exact h
  | comment data => exact h
  | element tag attrs uri =>
    have htag : '\n' ∉ tag.display.toList := h.1
    rw [Kind.line, Line.IsUnbroken, elementName]
    split
    · simpa using htag
    split
    · simpa using htag
    · exact htag
  | _ => trivial

end Node

namespace Attribute

/-- No qualifier has a line break. -/
theorem IsPlaced.hasNoBreak_qualifier {a : Attribute} (h : a.IsPlaced) (hu : a.isForeign = true) :
    Node.HasNoBreak a.qualifier := by
  have hne : a.namespaceURI ≠ .null := by
    intro he
    rw [isForeign_eq_false.mpr he] at hu
    contradiction
  rcases h.foreign hne with ⟨q, hq, _, _, hqualifier, -⟩ | ⟨hqualifier, -⟩
  · rw [hqualifier]
    exact fun hmem => absurd ((isName_qualifiers q hq).2 '\n' hmem) (by decide)
  · rw [hqualifier]
    exact List.not_mem_nil

theorem IsPlaced.isUnbroken_line {a : Attribute} (h : a.IsPlaced)
    (hname : Node.HasNoBreak a.name) (hvalue : Node.HasNoBreak a.value) : a.line.IsUnbroken := by
  refine ⟨?_, hvalue⟩
  rw [displayName]
  split
  · rename_i hforeign
    rw [Bool.and_eq_true] at hforeign
    have hqualifier := h.hasNoBreak_qualifier hforeign.1
    show '\n' ∉ (a.qualifier.display ++ " " ++ a.name.display).toList
    rw [Node.HasNoBreak] at hname hqualifier
    simp [hname, hqualifier]
  · exact hname

end Attribute

namespace Conversion

open Command (Space)
open Node (Row)
open Source (Place)

variable {space : Space} {place : Place} {root node : Node}

/-! ## One step -/

theorem isStandard_of_step (h : Step space.schema place node) : node.IsStandard where
  proper := isProper_of_step h
  doctype hn := by
    rw [Node.isDoctype] at hn
    split at hn
    · rename_i name publicId systemId hk
      have hdescribes := h.kind
      rw [hk] at hdescribes
      obtain ⟨-, rfl, rfl, rfl⟩ := hdescribes
      exact (regular_of_step h).eq_leaf hk rfl rfl
    · contradiction

/-- The attributes of a node are in the namespaces to which their names belong. -/
theorem isPlaced_of_step (h : Step space.schema place node) :
    ∀ a ∈ node.attributes, a.IsPlaced := by
  intro a ha
  obtain ⟨tag, attrs, uri, hk, ha⟩ := Node.exists_element_of_mem_attributes ha
  obtain ⟨list, rfl, properties, hlist⟩ := exists_ofProperties_of_step h hk
  exact Attribute.isPlaced_of_mem hlist ha

/-- What the rows of a node show has no line breaks. -/
theorem isUnbroken_of_step (h : Step space.schema place node) (hn : node.label.kind.HasNoBreaks) :
    ∀ item ∈ node.items, item.line.IsUnbroken := by
  have hattributes : ∀ a ∈ node.attributes, a.line.IsUnbroken := by
    intro a ha
    have hplaced := isPlaced_of_step h a ha
    obtain ⟨tag, attrs, uri, hk, ha⟩ := Node.exists_element_of_mem_attributes ha
    rw [hk] at hn
    exact hplaced.isUnbroken_line (hn.2 a ha).1 (hn.2 a ha).2
  intro item hi
  rw [Node.items, List.mem_cons, List.mem_append, List.mem_map, List.mem_map] at hi
  rcases hi with rfl | ⟨a, ha, rfl⟩ | ⟨inner, -, rfl⟩
  · exact Node.Kind.isUnbroken_line hn
  · exact hattributes a ((List.mergeSort_perm _ _).mem_iff.mp ha)
  · trivial

/-! ## Whole conversions -/

/-- The dump of a document or a fragment with children in a converted tree, cut at its line breaks,
if nothing that is shown in it has a line break itself, is the list of the texts of its rows: the
row of a node, those of its attributes, the marker of its content with the rows of the children of
the content, the rows of its children, each at its depth. These are one for each node, except for
the root and the contents, one for each attribute and one for each content. The attributes of a node
are sorted by the names under which they are shown, and stably. All rows are indented by two columns
for each level and a row of a node starts with a sign there, except for doctypes, which are never
indented. -/
theorem splitOn_dump {tree start : Value} {asFragment : Bool} {r : Node} {indent : Int}
    {text : String} (h : documentTree tree start asFragment = .ok root) (hr : r ∈ root.preorder)
    (hroot : r.IsRoot) (hchildren : r.children ≠ [])
    (hbreaks : ∀ n ∈ r.preorder, n.label.kind.HasNoBreaks) (hdump : r.dump indent = .ok text) :
    (text.toList.splitOn '\n').map String.ofList = (Node.rowsAll 0 r.children).map Row.text ∧
      r.ShowsEachOnce ((Node.rowsAll 0 r.children).map Row.item) ∧
      (∀ n ∈ r.preorder, Attribute.IsStableSort n.sortedAttributes n.attributes) ∧
      ∀ row ∈ Node.rowsAll 0 r.children, row.IsAligned := by
  have hstep : ∀ n ∈ r.preorder, ∃ (space : Space) (place : Place), Step space.schema place n :=
    fun n hn => exists_step_of_documentTree h (Node.mem_preorder_trans hr hn)
  have hstandard : ∀ n ∈ r.preorder, n.IsStandard := by
    intro n hn
    obtain ⟨space, place, hs⟩ := hstep n hn
    exact isStandard_of_step hs
  have hproper : ∀ n ∈ r.preorder, n.IsProper := fun n hn => (hstandard n hn).proper
  have hlines : ∀ s ∈ (Node.rowsAll 0 r.children).map Row.text, Text.IsLine s := by
    intro s hs
    obtain ⟨row, hrow, rfl⟩ := List.mem_map.mp hs
    obtain ⟨n, hn, hitem⟩ := Node.exists_mem_items_of_mem_rows hroot hproper hrow
    obtain ⟨space, place, hs⟩ := hstep n hn
    exact Node.isLine_writeLine (isUnbroken_of_step hs (hbreaks n hn) _ hitem)
  have hne : (Node.rowsAll 0 r.children).map Row.text ≠ [] :=
    mt List.map_eq_nil_iff.mp (Node.rowsAll_ne_nil hchildren 0)
  refine ⟨?_, Node.showsEachOnce hroot hproper,
    fun n _ => Attribute.isStableSort_mergeSort n.attributes, fun row _ => Node.isAligned row⟩
  rw [Node.dump_eq_rows hroot hstandard hdump, Text.splitOn_intercalate_lines hlines hne,
    List.map_map]
  simp [Function.comp_def]

/-- A root with a single child. -/
def sheet (v : Value) : Value := .obj [("type", .str "root"), ("children", .arr [v])]

theorem documentTree_sheet {v : Value} (h : convert space.schema v = .ok node) :
    documentTree (sheet v) (.str space.name) false =
      .ok (.ofKind (.document (.str "no-quirks")) none [node]) := by
  have hchildren : convertAll space.schema [v] = .ok [node] := by
    rw [convertAll, h]
    rfl
  rw [documentTree_eq _ space.ofSpace?_name]
  show convert space.schema (sheet v) = _
  rw [sheet, convert_root (by rfl)]
  show (convertAll space.schema [v]).bind _ = _
  rw [hchildren]
  rfl

/-- A template with a doctype in its content and a text among its children. -/
def slip : List (String × Value) :=
  [("type", .str "element"), ("tagName", .str "template"), ("properties", .obj labels),
    ("content", .obj [("type", .str "root"), ("children", .arr [.obj [("type", .str "doctype")]])]),
    ("children", .arr [.obj [("type", .str "text"), ("value", .str "x")]])]

/-- The node that the template is converted to. -/
def slipNode : Node :=
  .element (.str "template")
    [{ name := .str "data-b", value := .str "1" }, { name := .str "data-a", value := .str "2" }]
    (.str Namespace.html) none [.ofKind (.text (.str "x")) none []]
    (some (.ofKind .fragment none [.htmlDoctype none]))

theorem convert_slip : convert Space.html.schema (.obj slip) = .ok slipNode := by
  have hb : Space.html.info "data-b" = Schema.unknown "data-b" :=
    Space.info_eq_of_find (Space.html.find_data_dash "b")
  have ha : Space.html.info "data-a" = Schema.unknown "data-a" :=
    Space.info_eq_of_find (Space.html.find_data_dash "a")
  have hentries : Attribute.entries Space.html.info labels =
      Attribute.entries Schema.unknown labels :=
    List.filterMap_congr (by simp [labels, ha, hb])
  rw [convert_element (by rfl) (by rfl), schemaFor_schema, elementNamespace_schema]
  show (Attribute.ofProperties Space.html.schema (.obj labels)).bind _ = _
  rw [Attribute.ofProperties_obj, Attribute.ofLastWrites, hentries]
  rfl

/-- The node that a root with this template is converted to. -/
def sheetNode : Node := .ofKind (.document (.str "no-quirks")) none [slipNode]

theorem splitOn_dump_sheet :
    ∃ text, documentTree (sheet (.obj slip)) (.str Space.html.name) false = .ok sheetNode ∧
      sheetNode ∈ sheetNode.preorder ∧ sheetNode.IsRoot ∧ sheetNode.children ≠ [] ∧
      (∀ n ∈ sheetNode.preorder, n.label.kind.HasNoBreaks) ∧ sheetNode.dump 0 = .ok text ∧
      (text.toList.splitOn '\n').map String.ofList =
        (Node.rowsAll 0 sheetNode.children).map Row.text ∧
      sheetNode.ShowsEachOnce ((Node.rowsAll 0 sheetNode.children).map Row.item) ∧
      (∀ n ∈ sheetNode.preorder, Attribute.IsStableSort n.sortedAttributes n.attributes) ∧
      ∀ row ∈ Node.rowsAll 0 sheetNode.children, row.IsAligned := by
  have h : documentTree (sheet (.obj slip)) (.str Space.html.name) false = .ok sheetNode :=
    documentTree_sheet convert_slip
  have hroot : sheetNode.IsRoot := .inr ⟨_, rfl⟩
  have hchildren : sheetNode.children ≠ [] := List.cons_ne_nil _ _
  have hbreaks : ∀ n ∈ sheetNode.preorder, n.label.kind.HasNoBreaks := by
    simp [sheetNode, slipNode, Node.preorder, Node.preorderOpt, Node.htmlDoctype, Node.element,
      Node.ofKind, Node.Label.ofKind, Node.Kind.HasNoBreaks, Node.HasNoBreak, Value.display]
  obtain ⟨ls, hls⟩ : ∃ ls, sheetNode.dumpLines 0 = .ok ls :=
    Node.failsIf_dumpLines (fun n => isProper_of_mem_preorder h) rfl rfl
  have hdump : sheetNode.dump 0 = .ok ("\n".intercalate ls) := by
    rw [Node.dump, hls]
    rfl
  have hself := sheetNode.mem_preorder_self
  exact ⟨_, h, hself, hroot, hchildren, hbreaks, hdump,
    splitOn_dump h hself hroot hchildren hbreaks hdump⟩

end Conversion

end MarkupTree
