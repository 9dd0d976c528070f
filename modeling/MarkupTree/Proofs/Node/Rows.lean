import Mathlib.Data.List.Perm.Basic
import MarkupTree.Proofs.Attribute.Order
import MarkupTree.Proofs.Node.Failing

/-!
# Rows of a dump

A dump has a row for each node, for each attribute and for each content. Children are one level
below their parent, attributes and the start of a content as well, and the children of a content are
two levels below its template. In contrast to the document order, a content comes before the
children of its template, and the fragment that it is has no row as a node.

Results:

* `isAligned`: where the text of a row starts.
* `hasRows_of_isStandard`: the lines of a tree, if it has any, are the texts of its rows.
* `isCovered_of_isProper`, `showsEachOnce`: the rows of a tree have each node, each attribute and
  each content of the tree once.
* `dump_eq_rows`: the dump of a document or a fragment.
-/

namespace MarkupTree.Node

open Outcome (bind_eq_ok pure_eq_ok)

/-! ## Rows -/

/-- What a row of a dump stands for. -/
inductive Item where
  | node (n : Node)
  | attr (a : Attribute)
  | content (fragment : Node)

namespace Item

/-- The node, if it is one. -/
def node? : Item → Option Node
  | node n => some n
  | _ => none

/-- The attribute, if it is one. -/
def attr? : Item → Option Attribute
  | attr a => some a
  | _ => none

/-- The fragment, if it is a content. -/
def content? : Item → Option Node
  | content fragment => some fragment
  | _ => none

/-- What the line of an item shows. -/
def line : Item → Line
  | node n => n.label.kind.line
  | attr a => a.line
  | content _ => .content

theorem length_eq (items : List Item) :
    items.length = (items.filterMap node?).length + (items.filterMap attr?).length +
      (items.filterMap content?).length := by
  induction items with
  | nil => rfl
  | cons item rest ih =>
    cases item <;>
      simp only [List.filterMap_cons, node?, attr?, content?, List.length_cons] <;> omega

end Item

/-- An item at a depth. -/
structure Row where
  depth : Nat
  item : Item

/-- The attributes of a node, which has none unless it is an element. -/
def attributes (node : Node) : List Attribute :=
  match node.label.kind with
  | .element _ attrs _ => attrs.getD []
  | _ => []

theorem exists_element_of_mem_attributes {node : Node} {a : Attribute} (h : a ∈ node.attributes) :
    ∃ tag attrs uri, node.label.kind = .element tag attrs uri ∧ a ∈ attrs.getD [] := by
  rw [attributes] at h
  split at h
  · rename_i tag attrs uri hk
    exact ⟨tag, attrs, uri, hk, h⟩
  · exact absurd h List.not_mem_nil

/-- The attributes of a node in the order in which they are shown. -/
def sortedAttributes (node : Node) : List Attribute := node.attributes.mergeSort nameLE

/-- Whether a node is a document or a fragment. -/
def IsRoot (node : Node) : Prop :=
  node.label.kind = .fragment ∨ ∃ mode, node.label.kind = .document mode

theorem IsRoot.attributes_eq {node : Node} (h : node.IsRoot) : node.attributes = [] := by
  rcases h with hk | ⟨mode, hk⟩ <;> rw [attributes, hk]

theorem IsRoot.content_eq {node : Node} (h : node.IsRoot) (hr : node.IsRegular) :
    node.content = none := by
  apply hr.content
  rcases h with hk | ⟨mode, hk⟩ <;> rw [hk] <;> rfl

mutual

/-- The rows of a node and everything below it. -/
def rows (depth : Nat) : Node → List Row
  | mk label children content =>
    ⟨depth, .node (mk label children content)⟩ ::
      ((mk label children content).sortedAttributes.map (⟨depth + 1, .attr ·⟩) ++
        (contentRows depth content ++ rowsAll (depth + 1) children))

/-- The rows of several nodes one after another. -/
def rowsAll (depth : Nat) : List Node → List Row
  | [] => []
  | node :: rest => rows depth node ++ rowsAll depth rest

/-- The rows of the content of a node at a depth. -/
def contentRows (depth : Nat) : Option Node → List Row
  | none => []
  | some (mk label children content) =>
    ⟨depth + 1, .content (mk label children content)⟩ :: rowsAll (depth + 2) children

end

theorem rowsAll_ne_nil {nodes : List Node} (h : nodes ≠ []) (depth : Nat) :
    rowsAll depth nodes ≠ [] := by
  obtain ⟨⟨label, children, content⟩, rest, rfl⟩ := List.exists_cons_of_ne_nil h
  rw [rowsAll, rows, List.cons_append]
  exact List.cons_ne_nil _ _

/-! ## Texts -/

/-- Whether a node is a doctype. -/
def isDoctype (node : Node) : Bool :=
  match node.label.kind with
  | .doctype .. => true
  | _ => false

namespace Row

/-- How far a row is indented: by two columns for each level, unless it is that of a doctype. -/
def column (row : Row) : Nat :=
  match row.item with
  | .node n => if n.isDoctype then 0 else 2 * row.depth
  | _ => 2 * row.depth

/-- The text of a row. -/
def text (row : Row) : String := writeLine (row.column, row.item.line)

/-- Whether a row starts as far to the right as its depth says. That of a node starts with a sign
there, and that of a doctype does not depend on its depth. -/
def IsAligned (row : Row) : Prop :=
  match row.item with
  | .node n =>
    if n.isDoctype then row.text = "| <!DOCTYPE html>"
    else ∃ sign rest, (sign = '<' ∨ sign = '"') ∧
      row.text.toList = '|' :: ' ' :: (List.replicate (2 * row.depth) ' ' ++ sign :: rest)
  | _ => ∃ rest, row.text.toList = '|' :: ' ' :: (List.replicate (2 * row.depth) ' ' ++ rest)

end Row

theorem exists_sign (kind : Kind) :
    ∃ sign rest, (sign = '<' ∨ sign = '"') ∧ kind.line.chars = sign :: rest := by
  cases kind with
  | text value => exact ⟨'"', _, .inr rfl, rfl⟩
  | _ => exact ⟨'<', _, .inl rfl, rfl⟩

theorem line_of_isDoctype {node : Node} (h : node.isDoctype = true) :
    node.label.kind.line = .doctype := by
  rw [isDoctype] at h
  split at h
  · rename_i hk
    rw [hk]
    rfl
  · contradiction

/-- Every row is aligned. -/
theorem isAligned (row : Row) : row.IsAligned := by
  obtain ⟨depth, item⟩ := row
  cases item with
  | attr a => exact ⟨_, toList_writeLine _⟩
  | content fragment => exact ⟨_, toList_writeLine _⟩
  | node n =>
    dsimp only [Row.IsAligned, Row.text, Row.column, Item.line]
    split
    · rename_i hn
      rw [line_of_isDoctype hn]
      rfl
    · obtain ⟨sign, rest, hsign, hchars⟩ := exists_sign n.label.kind
      refine ⟨sign, rest, hsign, ?_⟩
      rw [toList_writeLine, hchars]

/-! ## Lines -/

/-- Whether a node is proper and, if it is a doctype, that of every converted tree. -/
structure IsStandard (node : Node) : Prop where
  proper : node.IsProper
  doctype : node.isDoctype = true → node = .htmlDoctype node.label.location

/-- Whether the lines of a node, if it has any, are the texts of its rows. -/
def HasRows (depth : Nat) (node : Node) : Prop :=
  ∀ ls, lines (2 * depth : Nat) node = .ok ls → ls = (rows depth node).map Row.text

/-- Whether the lines of a content, if it has any, are the texts of its rows. -/
def HasContentRows (depth : Nat) (content : Option Node) : Prop :=
  ∀ ls, contentLines (2 * depth : Nat) content = .ok ls →
    ls = (contentRows depth content).map Row.text

variable {depth : Nat} {nodes : List Node} {node : Node} {ls : List String}

theorem linesAll_eq_rows (h : ∀ node ∈ nodes, HasRows depth node)
    (hl : linesAll (2 * depth : Nat) nodes = .ok ls) :
    ls = (rowsAll depth nodes).map Row.text := by
  induction nodes generalizing ls with
  | nil =>
    obtain rfl := pure_eq_ok.mp hl
    rfl
  | cons node rest ih =>
    rw [List.forall_mem_cons] at h
    rw [linesAll, bind_eq_ok] at hl
    obtain ⟨own, hown, hl⟩ := hl
    rw [bind_eq_ok] at hl
    obtain ⟨others, hothers, hl⟩ := hl
    obtain rfl := pure_eq_ok.mp hl
    rw [rowsAll, List.map_append, h.1 own hown, ih h.2 hothers]

theorem hasContentRows_none : HasContentRows depth none := by
  intro ls h
  obtain rfl := pure_eq_ok.mp h
  rfl

theorem hasContentRows_some (hchildren : ∀ child ∈ node.children, HasRows (depth + 2) child) :
    HasContentRows depth (some node) := by
  obtain ⟨label, children, content⟩ := node
  intro ls h
  rw [contentLines] at h
  split at h
  · contradiction
  · have hindent : ((2 * depth : Nat) : Int) + 4 = (2 * (depth + 2) : Nat) := by omega
    obtain ⟨below, hbelow, h⟩ := bind_eq_ok.mp h
    obtain rfl := pure_eq_ok.mp h
    rw [hindent] at hbelow
    rw [contentRows, List.map_cons, linesAll_eq_rows hchildren hbelow, ← writeLine_content]
    rfl

/-- An element that has lines has its own, those of its content and those of its children. -/
theorem lines_element_eq_ok {tag uri : Value} {list : List Attribute} {location : Option Location}
    {children : List Node} {content : Option Node} {indent : Int}
    (h : lines indent (.element tag list uri location children content) = .ok ls) :
    ∃ own inner below, elementLines indent (.element tag (some list) uri) = .ok own ∧
      contentLines indent content = .ok inner ∧ linesAll (indent + 2) children = .ok below ∧
      ls = own ++ inner ++ below := by
  have hleaf : leafLine indent (.ofKind (.element tag (some list) uri) location) =
      if leafNames.any fun name => tag.isText name then some (.error .noSuchMember) else none :=
    leafLine_of_kind rfl rfl
  rw [element, lines, hleaf] at h
  cases hnames : leafNames.any fun name => tag.isText name with
  | true =>
    rw [hnames] at h
    contradiction
  | false =>
    rw [hnames] at h
    obtain ⟨own, hown, h⟩ := bind_eq_ok.mp h
    obtain ⟨inner, hinner, h⟩ := bind_eq_ok.mp h
    obtain ⟨below, hbelow, h⟩ := bind_eq_ok.mp h
    exact ⟨own, inner, below, hown, hinner, hbelow, (pure_eq_ok.mp h).symm⟩

/-- A node without attributes and without anything below it has a single row. -/
theorem rows_leaf (kind : Kind) (location : Option Location)
    (h : (ofKind kind location []).attributes = []) :
    rows depth (ofKind kind location []) = [⟨depth, .node (ofKind kind location [])⟩] := by
  rw [ofKind] at h ⊢
  rw [rows, sortedAttributes, h, List.mergeSort_nil]
  rfl

/-- The lines of a node that is standard are the texts of its rows if this is so of its content and
its children. -/
theorem hasRows_of_parts (hs : node.IsStandard)
    (hchildren : ∀ child ∈ node.children, HasRows (depth + 1) child)
    (hcontent : HasContentRows depth node.content) : HasRows depth node := by
  intro ls h
  have hr := hs.proper.regular
  cases hk : node.label.kind with
  | plain | parent =>
    have hregular := hr.kind
    rw [hk] at hregular
    exact hregular.elim
  | document mode =>
    have heq := hr.eq_ofKind (by rw [hk]; rfl)
    rw [heq, hk] at h
    contradiction
  | fragment =>
    have heq := hr.eq_ofKind (by rw [hk]; rfl)
    rw [heq, hk] at h
    contradiction
  | text value =>
    rw [hr.eq_leaf hk rfl rfl] at h ⊢
    rw [lines_text] at h
    rw [rows_leaf _ _ rfl, ← Except.ok.inj h]
    rfl
  | comment data =>
    rw [hr.eq_leaf hk rfl rfl] at h ⊢
    rw [lines_comment] at h
    rw [rows_leaf _ _ rfl, ← Except.ok.inj h]
    rfl
  | doctype name publicId systemId =>
    rw [hs.doctype (by rw [isDoctype, hk])] at h ⊢
    rw [lines_doctype] at h
    rw [htmlDoctype, rows_leaf _ _ rfl, ← Except.ok.inj h]
    rfl
  | element tag attrs uri =>
    obtain ⟨⟨s, rfl⟩, htext, -⟩ := hs.proper.element tag attrs uri hk
    have hregular := hr.kind
    rw [hk] at hregular
    obtain ⟨list, rfl, -⟩ := hregular
    rw [Option.getD_some] at htext
    rw [hr.eq_element hk] at h ⊢
    obtain ⟨own, inner, below, hown, hinner, hbelow, rfl⟩ := lines_element_eq_ok h
    have hindent : ((2 * depth : Nat) : Int) + 2 = (2 * (depth + 1) : Nat) := by omega
    rw [hindent] at hbelow
    rw [elementLines_eq htext] at hown
    obtain rfl := Except.ok.inj hown
    rw [hcontent inner hinner, linesAll_eq_rows hchildren hbelow, element, rows, List.map_cons,
      List.map_append, List.map_append, List.cons_append, List.cons_append, List.append_assoc,
      List.map_map, List.map_map]
    rfl

/-- The lines of a tree of standard nodes, if it has any, are the texts of its rows, by itself and
as a content. -/
theorem hasRows_of_isStandard (h : ∀ n ∈ node.preorder, n.IsStandard) (depth : Nat) :
    HasRows depth node ∧ HasContentRows depth (some node) := by
  induction node using induction generalizing depth with
  | mk label children content ihchildren ihcontent =>
    have hchildren : ∀ depth, ∀ child ∈ children, HasRows depth child :=
      fun depth child hc => (ihchildren child hc (fun n hn =>
        h n (mem_preorder_of_mem_children hc hn)) depth).1
    have hcontent : HasContentRows depth content := by
      cases content with
      | none => exact hasContentRows_none
      | some inner =>
        refine (ihcontent inner rfl (fun n hn => ?_) depth).2
        exact h n (mem_preorder_of_mem_content rfl hn)
    exact ⟨hasRows_of_parts (h _ (mem_preorder_self _)) (hchildren _) hcontent,
      hasContentRows_some (hchildren _)⟩

/-! ## Each item once -/

/-- A node with its attributes and its content. -/
def items (node : Node) : List Item :=
  .node node :: (node.sortedAttributes.map .attr ++ node.content.toList.map .content)

/-- Whether the rows of a tree, together with the contents in it as nodes, are its nodes, each with
its attributes and its content. -/
def IsCovered (depth : Nat) (node : Node) : Prop :=
  ((rows depth node).map Row.item ++ (node.preorder.filterMap content).map Item.node).Perm
    (node.preorder.flatMap items)

theorem perm_itemsAll (h : ∀ node ∈ nodes, IsCovered depth node) :
    ((rowsAll depth nodes).map Row.item ++
        ((nodes.flatMap preorder).filterMap content).map Item.node).Perm
      ((nodes.flatMap preorder).flatMap items) := by
  induction nodes with
  | nil => exact .refl _
  | cons node rest ih =>
    rw [List.forall_mem_cons] at h
    have hnode := h.1
    have hrest := ih h.2
    classical
    rw [IsCovered, List.perm_iff_count] at hnode
    rw [List.perm_iff_count] at hrest ⊢
    intro item
    have hn := hnode item
    have hr := hrest item
    simp only [rowsAll, List.flatMap_cons, List.map_append, List.filterMap_append,
      List.flatMap_append, List.count_append] at hn hr ⊢
    omega

/-- The rows of a fragment as a content are those of it as a node one level below, except for the
first. -/
theorem perm_itemsContent {inner : Node} (hr : inner.IsRegular) (hroot : inner.IsRoot)
    (h : IsCovered (depth + 1) inner) :
    ((contentRows depth (some inner)).map Row.item ++
        (inner :: inner.preorder.filterMap content).map Item.node).Perm
      (.content inner :: inner.preorder.flatMap items) := by
  have hcontent := hroot.content_eq hr
  have hattributes := hroot.attributes_eq
  obtain ⟨label, children, content⟩ := inner
  obtain rfl : content = none := hcontent
  rw [IsCovered, rows, sortedAttributes, hattributes, List.mergeSort_nil, contentRows] at h
  rw [contentRows]
  exact (List.perm_middle.trans h).cons _

/-- The rows of a tree of proper nodes have each node, attribute and content of the tree once, but
not the contents as nodes. -/
theorem isCovered_of_isProper (h : ∀ n ∈ node.preorder, n.IsProper) (depth : Nat) :
    IsCovered depth node := by
  induction node using induction generalizing depth with
  | mk label children content ihchildren ihcontent =>
    have hp := h _ (mem_preorder_self _)
    have hchildren := perm_itemsAll fun child hc => ihchildren child hc (fun n hn =>
      h n (mem_preorder_of_mem_children hc hn)) (depth + 1)
    have hattributes : ∀ attrs : List Attribute,
        (attrs.map fun a => Row.mk (depth + 1) (.attr a)).map Row.item = attrs.map Item.attr :=
      fun attrs => List.map_map
    rw [IsCovered, rows, preorder, preorderAll_eq_flatMap, List.map_cons, List.map_append,
      hattributes, List.map_append, List.flatMap_cons, items, content_mk]
    classical
    -- The content and the children stand in another order in the rows than in the tree.
    rw [List.perm_iff_count] at hchildren ⊢
    intro item
    have hc := hchildren item
    cases content with
    | none =>
      simp only [contentRows, preorderOpt, Option.toList_none, List.map_nil, List.nil_append,
        List.append_nil, List.filterMap_cons, content_mk, List.cons_append, List.count_cons,
        List.count_append] at hc ⊢
      omega
    | some inner =>
      have hbelow : ∀ n ∈ inner.preorder, n.IsProper := fun n hn =>
        h n (mem_preorder_of_mem_content rfl hn)
      have hinner := perm_itemsContent (hbelow inner inner.mem_preorder_self).regular
        (.inl (hp.content inner rfl)) (ihcontent inner rfl hbelow (depth + 1))
      rw [List.perm_iff_count] at hinner
      have hi := hinner item
      simp only [preorderOpt, Option.toList_some, List.filterMap_cons, content_mk, List.cons_append,
        List.count_cons, List.map_cons, List.map_nil, List.count_nil, List.count_append,
        List.filterMap_append, List.map_append, List.flatMap_append] at hc hi ⊢
      omega

/-! ## Roots -/

/-- Whether rows have each node of a tree once, except for its top and the contents, and besides
each attribute and each content once. -/
structure ShowsEachOnce (root : Node) (items : List Item) : Prop where
  nodes : root.preorder.Perm
    (root :: (root.preorder.filterMap content ++ items.filterMap Item.node?))
  attributes : (items.filterMap Item.attr?).Perm (root.preorder.flatMap attributes)
  contents : (items.filterMap Item.content?).Perm (root.preorder.filterMap content)
  /-- There is nothing else. -/
  length : items.length = (items.filterMap Item.node?).length +
    (root.preorder.flatMap Node.attributes).length + (root.preorder.filterMap content).length

theorem filterMap_items (node : Node) :
    node.items.filterMap Item.node? = [node] ∧
      node.items.filterMap Item.attr? = node.sortedAttributes ∧
      node.items.filterMap Item.content? = node.content.toList := by
  simp [items, List.filterMap_cons, List.filterMap_map, Function.comp_def, Item.node?, Item.attr?,
    Item.content?]

theorem filterMap_map_node (nodes : List Node) :
    (nodes.map Item.node).filterMap Item.node? = nodes ∧
      (nodes.map Item.node).filterMap Item.attr? = [] ∧
      (nodes.map Item.node).filterMap Item.content? = [] := by
  simp [List.filterMap_map, Function.comp_def, Item.node?, Item.attr?, Item.content?]

variable {root : Node}

theorem preorder_eq_cons_tail (root : Node) : root.preorder = root :: root.preorder.tail := by
  rw [preorder_eq, List.tail_cons]

/-- The rows of a document or a fragment of proper nodes, together with the contents in it as nodes,
are the nodes below it, each with its attributes and its content. -/
theorem perm_items_of_isRoot (hroot : root.IsRoot) (h : ∀ n ∈ root.preorder, n.IsProper) :
    ((rowsAll 0 root.children).map Row.item ++
        (root.preorder.filterMap content).map Item.node).Perm
      (root.preorder.tail.flatMap items) := by
  have hcontent := hroot.content_eq (h root root.mem_preorder_self).regular
  have hchildren : ∀ child ∈ root.children, IsCovered 0 child := fun child hc =>
    isCovered_of_isProper (fun n hn => h n (mem_preorder_of_mem_children hc hn)) 0
  have hparts : root.parts = root.children := by
    rw [parts, hcontent, Option.toList_none, List.append_nil]
  rw [preorder_eq, hparts, List.tail_cons, List.filterMap_cons_none hcontent]
  exact perm_itemsAll hchildren

/-- The rows of a document or a fragment of proper nodes show everything in it once. -/
theorem showsEachOnce (hroot : root.IsRoot) (h : ∀ n ∈ root.preorder, n.IsProper) :
    root.ShowsEachOnce ((rowsAll 0 root.children).map Row.item) := by
  have hcontent := hroot.content_eq (h root root.mem_preorder_self).regular
  have hperm := perm_items_of_isRoot hroot h
  have hnodes := hperm.filterMap Item.node?
  have hattrs := hperm.filterMap Item.attr?
  have hcontents := hperm.filterMap Item.content?
  simp only [List.filterMap_append, List.filterMap_flatMap, filterMap_items, filterMap_map_node,
    List.append_nil, List.flatMap_singleton', ← List.filterMap_eq_flatMap_toList]
    at hnodes hattrs hcontents
  -- The root has neither attributes nor a content, so nothing is lost below it.
  have hattributes : (root.preorder.tail.flatMap sortedAttributes).Perm
      (root.preorder.flatMap attributes) := by
    rw [root.preorder_eq_cons_tail, List.flatMap_cons, hroot.attributes_eq, List.nil_append,
      List.tail_cons]
    exact List.Perm.flatMap_left _ fun n _ => List.mergeSort_perm _ _
  have hfragments : root.preorder.tail.filterMap content = root.preorder.filterMap content := by
    rw [root.preorder_eq_cons_tail, List.filterMap_cons_none hcontent, List.tail_cons]
  replace hattrs := hattrs.trans hattributes
  rw [hfragments] at hcontents
  refine ⟨?_, hattrs, hcontents, ?_⟩
  · nth_rewrite 1 [root.preorder_eq_cons_tail]
    exact (List.perm_append_comm.trans hnodes).symm.cons root
  · rw [Item.length_eq, hattrs.length_eq, hcontents.length_eq]

/-- What the rows of a document or a fragment show belongs to a node in it. -/
theorem exists_mem_items_of_mem_rows (hroot : root.IsRoot) (h : ∀ n ∈ root.preorder, n.IsProper)
    {row : Row} (hrow : row ∈ rowsAll 0 root.children) :
    ∃ n ∈ root.preorder, row.item ∈ n.items := by
  have hmem := (perm_items_of_isRoot hroot h).subset
    (List.mem_append_left _ (List.mem_map_of_mem hrow))
  obtain ⟨n, hn, hitem⟩ := List.mem_flatMap.mp hmem
  exact ⟨n, List.mem_of_mem_tail hn, hitem⟩

/-- The dump of a document or a fragment of standard nodes, if it has one, is made of the texts of
its rows. -/
theorem dump_eq_rows (hroot : root.IsRoot) (h : ∀ n ∈ root.preorder, n.IsStandard) {indent : Int}
    {text : String} (hdump : root.dump indent = .ok text) :
    text = "\n".intercalate ((rowsAll 0 root.children).map Row.text) := by
  have hname := (h root root.mem_preorder_self).proper.regular.name
  have hshown : root.isDumpedByChildren = true ∧ root.label.kind.hasChildren = true := by
    rw [isDumpedByChildren, hname]
    rcases hroot with hk | ⟨mode, hk⟩ <;> rw [hk] <;> exact ⟨rfl, rfl⟩
  have hchildren : ∀ child ∈ root.children, HasRows 0 child := fun child hc =>
    (hasRows_of_isStandard (fun n hn => h n (mem_preorder_of_mem_children hc hn)) 0).1
  rw [dump, dumpLines_of_isDumpedByChildren hshown.1 hshown.2] at hdump
  cases hl : linesAll 0 root.children with
  | error e =>
    rw [hl] at hdump
    contradiction
  | ok ls =>
    rw [hl] at hdump
    rw [← linesAll_eq_rows hchildren hl]
    exact (Except.ok.inj hdump).symm

end MarkupTree.Node
