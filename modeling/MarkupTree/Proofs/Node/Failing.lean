import MarkupTree.Node.Data
import MarkupTree.Proofs.Node.Entries
import MarkupTree.Proofs.Node.Regular

/-!
# Trees that cannot be shown

How a node is shown depends on its name, and an element goes by its tag. So an element that is
called like a node of another kind is asked for data that it does not have.

Results:

* `failsIf_toValue`: which trees have no object, and no JSON text.
* `failsIf_lines`, `failsIf_dumpLines`: which trees have no dump.
-/

namespace MarkupTree.Node

open Outcome (FailsIf failsIf_error failsIf_ok)

/-! ## Names -/

/-- The names of nodes without children. -/
def leafNames : List String := ["#text", "#comment", "#documentType"]

/-- Whether a node is an element with one of these tags. -/
def isTagged (tags : List String) (node : Node) : Bool :=
  match node.label.kind with
  | .element tag _ _ => tags.any fun name => tag.isText name
  | _ => false

/-- Whether a node is an element whose tag is a list or an object. -/
def isTaggedByContainer (node : Node) : Bool :=
  match node.label.kind with
  | .element tag _ _ => tag.isContainer
  | _ => false

/-- Whether a node is a document. -/
def isDocument (node : Node) : Bool :=
  match node.label.kind with
  | .document _ => true
  | _ => false

/-- Whether a node lacks the data that its object asks for. -/
def lacksFields (node : Node) : Bool := node.isTagged ("#document" :: leafNames)

/-- Whether a node lacks the data that its lines ask for, where it is not the top of a tree. -/
def lacksLines (node : Node) : Bool := node.isTagged leafNames || node.isDocument

theorem any_tail_preorder (p : Node → Bool) (node : Node) :
    node.preorder.tail.any p =
      (node.children.any (fun child => child.preorder.any p) ||
        node.content.any fun content => content.preorder.any p) := by
  rw [preorder_eq, List.tail_cons, List.any_flatMap, parts, List.any_append]
  cases node.content <;> simp

theorem any_preorder (p : Node → Bool) (node : Node) :
    node.preorder.any p = (p node || node.preorder.tail.any p) := by
  rw [preorder_eq, List.any_cons, List.tail_cons]

/-! ## Objects -/

variable {label : Label} {children : List Node} {content : Option Node} {tag uri : Value}
  {e : Failure} {failing : Node → Bool}

theorem leafFields_of_kind {attrs : Option (List Attribute)}
    (hk : label.kind = .element tag attrs uri) (hn : label.name = tag) :
    leafFields label =
      if leafNames.any fun name => tag.isText name then some (.error .noSuchMember) else none := by
  simp only [leafFields, hk, hn, leafNames, List.any_cons, List.any_nil, Bool.or_false]
  cases tag.isText "#text" <;> cases tag.isText "#comment" <;>
    cases tag.isText "#documentType" <;> rfl

theorem failsIf_ownFields_element {list : List Attribute}
    (hk : label.kind = .element tag (some list) uri) (hn : label.name = tag) :
    FailsIf (tag.isText "#document") .noSuchMember (ownFields label) := by
  rw [ownFields, hk, hn]
  cases tag.isText "#document" with
  | true => exact failsIf_error _
  | false =>
    cases tag.isText "#document-fragment" with
    | true => exact failsIf_ok _ _
    | false => exact failsIf_ok _ _

theorem failsIf_toValues {nodes : List Node}
    (h : ∀ node ∈ nodes, FailsIf (failing node) e node.toValue) :
    FailsIf (nodes.any failing) e (toValues nodes) := by
  induction nodes with
  | nil => exact failsIf_ok e []
  | cons node rest ih =>
    rw [List.forall_mem_cons] at h
    rw [List.any_cons, toValues]
    exact h.1.bind fun v _ => (ih h.2).bind_pure

theorem failsIf_contentFields (h : ∀ node ∈ content, FailsIf (failing node) e node.toValue) :
    FailsIf (content.any failing) e (contentFields content) := by
  cases content with
  | none => exact failsIf_ok e []
  | some node => exact (h node rfl).bind_pure

/-- A node that can have children has an object if its own fields, its children and its content
have. -/
theorem failsIf_toValue_parent {own : Bool} (hl : leafFields label = none)
    (hk : label.kind.hasChildren = true) (ho : FailsIf own e (ownFields label))
    (hchildren : ∀ node ∈ children, FailsIf (failing node) e node.toValue)
    (hcontent : ∀ node ∈ content, FailsIf (failing node) e node.toValue) :
    FailsIf (own || (children.any failing || content.any failing)) e
      (toValue (mk label children content)) := by
  rw [toValue, hl]
  refine ho.bind fun fields _ => ?_
  rw [hk]
  refine (failsIf_toValues hchildren).bind fun vs _ => ?_
  exact (failsIf_contentFields hcontent).bind_pure

/-- An element has no object if it is called like a node of another kind. -/
theorem failsIf_toValue_element {list : List Attribute} {location : Option Location}
    (hchildren : ∀ node ∈ children, FailsIf (failing node) .noSuchMember node.toValue)
    (hcontent : ∀ node ∈ content, FailsIf (failing node) .noSuchMember node.toValue) :
    FailsIf
      (("#document" :: leafNames).any (fun name => tag.isText name) ||
        (children.any failing || content.any failing))
      .noSuchMember (toValue (element tag list uri location children content)) := by
  have hleaf : leafFields (.ofKind (.element tag (some list) uri) location) =
      if leafNames.any fun name => tag.isText name then some (.error .noSuchMember) else none :=
    leafFields_of_kind rfl rfl
  rw [List.any_cons, Bool.or_comm (tag.isText "#document"), element]
  cases hnames : leafNames.any fun name => tag.isText name with
  | true =>
    rw [hnames] at hleaf
    rw [toValue, hleaf]
    exact failsIf_error _
  | false =>
    rw [hnames] at hleaf
    rw [Bool.false_or]
    exact failsIf_toValue_parent hleaf rfl (failsIf_ownFields_element rfl rfl) hchildren hcontent

/-- A regular node has no object if it lacks the data that its name asks for, or something right
below it has none. -/
theorem failsIf_toValue_of_isRegular {node : Node} (hr : node.IsRegular)
    (hchildren : ∀ child ∈ node.children, FailsIf (failing child) .noSuchMember child.toValue)
    (hcontent : ∀ inner ∈ node.content, FailsIf (failing inner) .noSuchMember inner.toValue) :
    FailsIf (node.lacksFields || (node.children.any failing || node.content.any failing))
      .noSuchMember node.toValue := by
  obtain ⟨⟨kind, name, location⟩, children, content⟩ := node
  obtain rfl : name = kind.nodeName := hr.name
  cases kind with
  | plain => exact hr.kind.elim
  | parent => exact hr.kind.elim
  | document mode =>
    exact failsIf_toValue_parent rfl rfl (failsIf_ok _ [("mode", mode)]) hchildren hcontent
  | fragment => exact failsIf_toValue_parent rfl rfl (failsIf_ok _ []) hchildren hcontent
  | element tag attrs uri =>
    obtain ⟨list, rfl, -⟩ := hr.kind
    exact failsIf_toValue_element hchildren hcontent
  | text | comment | doctype =>
    obtain rfl : children = [] := hr.children rfl
    obtain rfl : content = none := hr.content rfl
    exact failsIf_ok _ _

/-- A tree of regular nodes has no object if and only if some element in it is called like a node of
another kind that is not a fragment. -/
theorem failsIf_toValue {node : Node} (h : ∀ n ∈ node.preorder, n.IsRegular) :
    FailsIf (node.preorder.any lacksFields) .noSuchMember node.toValue := by
  induction node using induction with
  | mk label children content ihchildren ihcontent =>
    rw [any_preorder, any_tail_preorder]
    refine failsIf_toValue_of_isRegular (h _ (mem_preorder_self _)) ?_ ?_
    · intro child hc
      exact ihchildren child hc fun n hn =>
        h n (mem_preorder_of_mem_children hc hn)
    · intro inner hc
      exact ihcontent inner hc fun n hn =>
        h n (mem_preorder_of_mem_content hc hn)

/-- A tree of regular nodes has no JSON text if and only if it has no object. -/
theorem failsIf_toJson {node : Node} (h : ∀ n ∈ node.preorder, n.IsRegular) :
    FailsIf (node.preorder.any lacksFields) .noSuchMember (node.toJson none) := by
  rw [toJson_of_check fun width hw => by contradiction]
  exact (failsIf_toValue h).map

/-! ## Lines -/

/-- Whether a node is as a conversion makes it: it is regular, has fragments for its content only
and has one only as a template, and if it is an element, the names of its namespace and of its
attributes are texts. -/
structure IsProper (node : Node) : Prop where
  regular : node.IsRegular
  children : ∀ child ∈ node.children, child.label.kind ≠ .fragment
  content : ∀ inner ∈ node.content, inner.label.kind = .fragment
  element : ∀ tag attrs uri, node.label.kind = .element tag attrs uri →
    (∃ s, uri = .str s) ∧ (∀ a ∈ attrs.getD [], (nameText? a).isSome) ∧
      (tag.isText "template" = false → node.content = none)

variable {indent : Int}

theorem leafLine_of_kind {attrs : Option (List Attribute)}
    (hk : label.kind = .element tag attrs uri) (hn : label.name = tag) :
    leafLine indent label =
      if leafNames.any fun name => tag.isText name then some (.error .noSuchMember) else none := by
  simp only [leafLine, hk, hn, leafNames, List.any_cons, List.any_nil, Bool.or_false]
  cases tag.isText "#text" <;> cases tag.isText "#comment" <;>
    cases tag.isText "#documentType" <;> rfl

/-- An element whose namespace and attributes have texts for names has lines of its own. -/
theorem failsIf_elementLines {list : List Attribute} {s : String}
    (h : ∀ a ∈ list, (nameText? a).isSome) :
    FailsIf false e (elementLines indent (.element tag (some list) (.str s))) := by
  rw [elementLines, qualifiedName_eq, attributeLines, sortAttributes_of_texts h]
  exact failsIf_ok e _

theorem failsIf_linesAll {nodes : List Node}
    (h : ∀ node ∈ nodes, FailsIf (failing node) e (lines indent node)) :
    FailsIf (nodes.any failing) e (linesAll indent nodes) := by
  induction nodes with
  | nil => exact failsIf_ok e []
  | cons node rest ih =>
    rw [List.forall_mem_cons] at h
    rw [List.any_cons, linesAll]
    exact h.1.bind fun own _ => (ih h.2).bind_pure

theorem failsIf_contentLines {inner : Node} (hk : inner.label.kind.hasChildren = true)
    (h : ∀ child ∈ inner.children, FailsIf (failing child) e (lines (indent + 4) child)) :
    FailsIf (inner.children.any failing) e (contentLines indent (some inner)) := by
  obtain ⟨label, children, content⟩ := inner
  rw [contentLines]
  rw [label_mk] at hk
  rw [hk]
  exact (failsIf_linesAll h).bind_pure

/-- An element has no lines if it is called like a node without children, or something below it has
none. -/
theorem failsIf_lines_element {list : List Attribute} {s : String} {location : Option Location}
    (hattrs : ∀ a ∈ list, (nameText? a).isSome)
    (hchildren : ∀ child ∈ children,
      FailsIf (failing child) .noSuchMember (lines (indent + 2) child))
    (hcontent : FailsIf (content.any failing) .noSuchMember (contentLines indent content)) :
    FailsIf
      (leafNames.any (fun name => tag.isText name) || (children.any failing || content.any failing))
      .noSuchMember (lines indent (element tag list (.str s) location children content)) := by
  have hleaf : leafLine indent (.ofKind (.element tag (some list) (.str s)) location) =
      if leafNames.any fun name => tag.isText name then some (.error .noSuchMember) else none :=
    leafLine_of_kind rfl rfl
  rw [element, Bool.or_comm (children.any failing)]
  cases hnames : leafNames.any fun name => tag.isText name with
  | true =>
    rw [hnames] at hleaf
    rw [lines, hleaf]
    exact failsIf_error _
  | false =>
    rw [hnames] at hleaf
    rw [lines, hleaf]
    refine (failsIf_elementLines hattrs).bind fun own _ => ?_
    exact hcontent.bind fun below _ => (failsIf_linesAll hchildren).bind_pure

/-- A proper node has no lines if it lacks the data that its name asks for, or something below it
has none. -/
theorem failsIf_lines_of_isProper {node : Node} (hp : node.IsProper)
    (hk : node.label.kind ≠ .fragment)
    (hchildren : ∀ child ∈ node.children,
      FailsIf (failing child) .noSuchMember (lines (indent + 2) child))
    (hcontent :
      FailsIf (node.content.any failing) .noSuchMember (contentLines indent node.content)) :
    FailsIf (node.lacksLines || (node.children.any failing || node.content.any failing))
      .noSuchMember (lines indent node) := by
  have hr := hp.regular
  have helement := hp.element
  obtain ⟨⟨kind, name, location⟩, children, content⟩ := node
  obtain rfl : name = kind.nodeName := hr.name
  cases kind with
  | plain => exact hr.kind.elim
  | parent => exact hr.kind.elim
  | fragment => exact absurd rfl hk
  | document mode => exact failsIf_error _
  | text | comment | doctype =>
    obtain rfl : children = [] := hr.children rfl
    obtain rfl : content = none := hr.content rfl
    exact failsIf_ok _ _
  | element tag attrs uri =>
    obtain ⟨list, rfl, -⟩ := hr.kind
    obtain ⟨⟨s, rfl⟩, hattrs, -⟩ := helement tag _ uri rfl
    show FailsIf ((leafNames.any (fun name => tag.isText name) || false) || _) _ _
    rw [Bool.or_false]
    exact failsIf_lines_element hattrs hchildren hcontent

/-- In a tree of proper nodes, a node other than a fragment has lines unless something at or below
it lacks the data that they ask for. A content has lines under the same condition. -/
theorem failsIf_lines {node : Node} (h : ∀ n ∈ node.preorder, n.IsProper) :
    (node.label.kind ≠ .fragment → ∀ indent,
      FailsIf (node.preorder.any lacksLines) .noSuchMember (lines indent node)) ∧
    (node.label.kind = .fragment → ∀ indent,
      FailsIf (node.preorder.any lacksLines) .noSuchMember (contentLines indent (some node))) := by
  -- Fragments occur as contents only, and nothing else does.
  induction node using induction with
  | mk label children content ihchildren ihcontent =>
    have hp := h _ (mem_preorder_self _)
    have hchildren : ∀ indent, ∀ child ∈ children,
        FailsIf (child.preorder.any lacksLines) .noSuchMember (lines indent child) := by
      intro indent child hc
      refine (ihchildren child hc fun n hn => ?_).1 (hp.children child hc) indent
      exact h n (mem_preorder_of_mem_children hc hn)
    rw [any_preorder, any_tail_preorder]
    constructor
    · intro hk indent
      refine failsIf_lines_of_isProper hp hk (hchildren _) ?_
      cases content with
      | none => exact failsIf_ok _ _
      | some inner =>
        refine (ihcontent inner rfl fun n hn => ?_).2 (hp.content inner rfl) indent
        exact h n (mem_preorder_of_mem_content rfl hn)
    · intro hk indent
      rw [label_mk] at hk
      have hlacks : lacksLines (mk label children content) = false := by
        rw [lacksLines, isTagged, isDocument, label_mk, hk]
        rfl
      have hnone : content = none := hp.regular.content (by rw [label_mk, hk]; rfl)
      rw [hlacks, hnone, content_mk, Bool.false_or, Option.any_none, Bool.or_false]
      exact failsIf_contentLines (by rw [label_mk, hk]; rfl) (hchildren _)

/-! ## Dumps -/

/-- Whether the children of a node are dumped in its place. -/
def isDumpedByChildren (node : Node) : Bool :=
  node.label.name.isText "#document" || node.label.name.isText "#document-fragment"

variable {root : Node}

theorem dumpLines_of_isDumpedByChildren (h : root.isDumpedByChildren = true)
    (hk : root.label.kind.hasChildren = true) :
    dumpLines indent root = linesAll 0 root.children := by
  have hname : root.label.name.isContainer = false := by
    rw [isDumpedByChildren, Bool.or_eq_true, Value.isText_iff, Value.isText_iff] at h
    rcases h with h | h <;> rw [h] <;> rfl
  rw [isDumpedByChildren] at h
  simp only [dumpLines, hname, h, hk, Bool.false_eq_true, if_false, if_true]

theorem dumpLines_of_not_isDumpedByChildren (h : root.isDumpedByChildren = false)
    (hname : root.label.name.isContainer = false) (hw : Width.check indent = .ok ()) :
    dumpLines indent root = lines indent root := by
  rw [isDumpedByChildren] at h
  simp only [dumpLines, hname, h, hw, Bool.false_eq_true, if_false]
  cases root.label.name.isText "#documentType" <;> rfl

/-- A tree whose top is an element with a list or an object for its tag has no dump. -/
theorem dumpLines_of_isTaggedByContainer (hr : root.IsRegular)
    (h : root.isTaggedByContainer = true) :
    dumpLines indent root = .error .wrongType := by
  have hname : root.label.name.isContainer = true := by
    rw [hr.name]
    rw [isTaggedByContainer] at h
    split at h
    · rename_i hk
      rw [hk]
      exact h
    · contradiction
  simp only [dumpLines, hname, if_true]

/-- Whether a tree has a dump depends on its elements, and on the documents below its top. -/
def lacksDump (root : Node) : Bool :=
  root.preorder.any (isTagged leafNames) || root.preorder.tail.any isDocument

theorem lacksDump_eq (root : Node) :
    root.lacksDump = (root.isTagged leafNames || root.preorder.tail.any lacksLines) := by
  have hlacks : lacksLines = fun node => node.isTagged leafNames || node.isDocument := rfl
  rw [lacksDump, any_preorder, Bool.or_assoc, hlacks, Lists.any_or]

theorem isContainer_name (hr : root.IsRegular) (h : root.isTaggedByContainer = false) :
    root.label.name.isContainer = false := by
  rw [hr.name]
  rw [isTaggedByContainer] at h
  cases hk : root.label.kind with
  | element tag attrs uri =>
    rw [hk] at h
    exact h
  | _ => rfl

/-- A node whose children are dumped in its place is a document, a fragment, or an element that is
called like one and so is no template. -/
theorem cases_of_isDumpedByChildren (hp : root.IsProper) (h : root.isDumpedByChildren = true) :
    root.label.kind.hasChildren = true ∧ root.isTagged leafNames = false ∧ root.content = none := by
  have hr := hp.regular
  rw [isDumpedByChildren, hr.name] at h
  rw [isTagged]
  cases hk : root.label.kind with
  | plain | parent | text | comment | doctype =>
    rw [hk] at h
    contradiction
  | document mode => exact ⟨rfl, rfl, hr.content (by rw [hk]; rfl)⟩
  | fragment => exact ⟨rfl, rfl, hr.content (by rw [hk]; rfl)⟩
  | element tag attrs uri =>
    rw [hk, Kind.nodeName, Bool.or_eq_true, Value.isText_iff, Value.isText_iff] at h
    have hcontent := (hp.element tag attrs uri hk).2.2
    rcases h with rfl | rfl
    · exact ⟨rfl, rfl, hcontent rfl⟩
    · exact ⟨rfl, rfl, hcontent rfl⟩

theorem failsIf_dumpLines_children (h : ∀ n ∈ root.preorder, n.IsProper)
    (hroot : root.isDumpedByChildren = true) :
    FailsIf root.lacksDump .noSuchMember (dumpLines indent root) := by
  obtain ⟨hk, htag, hcontent⟩ := cases_of_isDumpedByChildren (h root (mem_preorder_self root)) hroot
  rw [lacksDump_eq, htag, any_tail_preorder, hcontent, Option.any_none, Bool.false_or,
    Bool.or_false, dumpLines_of_isDumpedByChildren hroot hk]
  refine failsIf_linesAll fun child hc => ?_
  refine (failsIf_lines fun n hn => ?_).1 ?_ 0
  · exact h n (mem_preorder_of_mem_children hc hn)
  · exact (h root (mem_preorder_self root)).children child hc

theorem failsIf_dumpLines_self (h : ∀ n ∈ root.preorder, n.IsProper)
    (hroot : root.isDumpedByChildren = false) (hname : root.label.name.isContainer = false)
    (hw : Width.check indent = .ok ()) :
    FailsIf root.lacksDump .noSuchMember (dumpLines indent root) := by
  have hr := (h root (mem_preorder_self root)).regular
  have hfragment : root.label.kind ≠ .fragment := by
    intro hk
    rw [isDumpedByChildren, hr.name, hk] at hroot
    contradiction
  have hdocument : root.isDocument = false := by
    rw [isDocument]
    split
    · rename_i hk
      rw [isDumpedByChildren, hr.name, hk] at hroot
      contradiction
    · rfl
  have hlines := (failsIf_lines h).1 hfragment indent
  rw [any_preorder, lacksLines, hdocument, Bool.or_false] at hlines
  rw [lacksDump_eq, dumpLines_of_not_isDumpedByChildren hroot hname hw]
  exact hlines

/-- A tree of proper nodes whose top is no element with a list or an object for its tag has a dump,
unless it has an element that is called like a node without children, or a document below its top.
-/
theorem failsIf_dumpLines (h : ∀ n ∈ root.preorder, n.IsProper)
    (htag : root.isTaggedByContainer = false) (hw : Width.check indent = .ok ()) :
    FailsIf root.lacksDump .noSuchMember (dumpLines indent root) := by
  cases hroot : root.isDumpedByChildren with
  | true => exact failsIf_dumpLines_children h hroot
  | false =>
    have hname := isContainer_name (h root (mem_preorder_self root)).regular htag
    exact failsIf_dumpLines_self h hroot hname hw

end MarkupTree.Node
