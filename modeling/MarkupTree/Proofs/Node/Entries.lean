import MarkupTree.Proofs.Attribute.Line
import MarkupTree.Proofs.Outcome

/-!
# Dumps of legible trees

A tree is legible if its names are names, its values have no line breaks, and no doctype stands
below its top. The lines of its dump are given by what each of them shows, at which depth.

Results:

* `lines_eq`: the lines of a legible tree.
* `dump_of_isLegible`: the dump of a tree with legible children.
-/

namespace MarkupTree.Node

/-! ## Legible trees -/

/-- The content of a template: a fragment with a location and children. -/
def fragmentOf (content : Option Location × List Node) : Node :=
  .ofKind .fragment content.1 content.2

/-- Whether a tree at a depth is told by its lines. A doctype is always at the left margin. -/
inductive IsLegible : Nat → Node → Prop
  | doctype {location : Option Location} : IsLegible 0 (htmlDoctype location)
  | text {depth : Nat} {value : String} {location : Option Location}
    (hvalue : '\n' ∉ value.toList) : IsLegible depth (.ofKind (.text (.str value)) location [])
  | comment {depth : Nat} {data : String} {location : Option Location}
    (hdata : '\n' ∉ data.toList) : IsLegible depth (.ofKind (.comment (.str data)) location [])
  | element {depth : Nat} {tag uri : String} {attrs : List Attribute} {location : Option Location}
    {children : List Node} {content : Option (Option Location × List Node)} (htag : IsName tag)
    (huri : uri = Namespace.html ∨ uri = Namespace.svg) (hattrs : ∀ a ∈ attrs, a.IsLegible)
    (hchildren : ∀ child ∈ children, IsLegible (depth + 2) child)
    (hcontent : ∀ c ∈ content, ∀ child ∈ c.2, IsLegible (depth + 4) child) :
    IsLegible depth
      (.element (.str tag) attrs (.str uri) location children (content.map fragmentOf))

/-! ## Entries -/

/-- The name under which an element is shown. -/
def elementName (tag uri : Value) : String :=
  if uri.isText Namespace.svg then "svg " ++ tag.display
  else if uri.isText Namespace.mathML then "math " ++ tag.display
  else tag.display

/-- What the line of a node shows. -/
def Kind.line : Kind → Line
  | .element tag _ uri => .element (elementName tag uri)
  | .text value => .text value.display
  | .comment data => .comment data.display
  | _ => .doctype

/-- What the lines of the attributes of a node show. -/
def Kind.attributeLines : Kind → List Line
  | .element _ attrs _ => ((attrs.getD []).mergeSort nameLE).map Attribute.line
  | _ => []

mutual

/-- The lines of a node and everything below it, with their depths. -/
def entries (depth : Nat) : Node → List (Nat × Line)
  | mk label children content =>
    (depth, label.kind.line) :: (label.kind.attributeLines.map (depth + 2, ·) ++
      (contentEntries depth content ++ entriesAll (depth + 2) children))

/-- The lines of several nodes one after another, with their depths. -/
def entriesAll (depth : Nat) : List Node → List (Nat × Line)
  | [] => []
  | node :: rest => entries depth node ++ entriesAll depth rest

/-- The lines of the content of a node at a depth, with their own depths. -/
def contentEntries (depth : Nat) : Option Node → List (Nat × Line)
  | none => []
  | some (mk _ children _) => (depth + 2, .content) :: entriesAll (depth + 4) children

end

theorem entries_element (depth : Nat) (tag uri : Value) (attrs : List Attribute)
    (location : Option Location) (children : List Node) (content : Option Node) :
    entries depth (.element tag attrs uri location children content) =
      (depth, .element (elementName tag uri)) ::
        (((attrs.mergeSort nameLE).map Attribute.line).map (depth + 2, ·) ++
          (contentEntries depth content ++ entriesAll (depth + 2) children)) := by
  rw [element, entries]
  rfl

/-! ## Lines -/

theorem qualifiedName_eq (tag : Value) (uri : String) :
    qualifiedName tag (.str uri) = .ok (elementName tag (.str uri)) := by
  rw [qualifiedName, elementName, if_neg (by simp [Value.isContainer])]
  split
  · rfl
  split
  · rfl
  · rfl

theorem writeLine_attr (depth : Nat) (a : Attribute) :
    writeLine (depth, a.line) = attributeLine depth a := by
  apply String.toList_inj.mp
  rw [toList_writeLine]
  simp [attributeLine, margin, Attribute.line, Line.chars]

theorem attributeLines_eq {attrs : List Attribute} (h : ∀ a ∈ attrs, (nameText? a).isSome)
    (depth : Nat) :
    attributeLines depth (some attrs) =
      .ok (((attrs.mergeSort nameLE).map Attribute.line).map
        fun line => writeLine (depth, line)) := by
  rw [attributeLines, sortAttributes_of_texts h, List.map_map]
  refine congrArg Except.ok (List.map_congr_left fun a _ => ?_)
  exact (writeLine_attr depth a).symm

theorem lines_text (depth : Nat) (value : Value) (location : Option Location) :
    lines depth (.ofKind (.text value) location []) =
      .ok [writeLine (depth, .text value.display)] := by
  have hline : margin depth ++ "\"" ++ value.display ++ "\"" =
      writeLine (depth, .text value.display) := by
    apply String.toList_inj.mp
    rw [toList_writeLine]
    simp [margin, Line.chars]
  have hleaf : leafLine depth (.ofKind (.text value) location) =
      some (.ok (margin depth ++ "\"" ++ value.display ++ "\"")) := by
    simp [leafLine, Label.ofKind, Kind.nodeName, Value.isText]
  rw [ofKind, lines, hleaf, hline]
  rfl

theorem lines_comment (depth : Nat) (data : Value) (location : Option Location) :
    lines depth (.ofKind (.comment data) location []) =
      .ok [writeLine (depth, .comment data.display)] := by
  have hline : margin depth ++ "<!-- " ++ data.display ++ " -->" =
      writeLine (depth, .comment data.display) := by
    apply String.toList_inj.mp
    rw [toList_writeLine]
    simp [margin, Line.chars]
  have hleaf : leafLine depth (.ofKind (.comment data) location) =
      some (.ok (margin depth ++ "<!-- " ++ data.display ++ " -->")) := by
    simp [leafLine, Label.ofKind, Kind.nodeName]
  rw [ofKind, lines, hleaf, hline]
  rfl

theorem lines_doctype (indent : Int) (location : Option Location) :
    lines indent (htmlDoctype location) = .ok [writeLine (0, .doctype)] := by
  have hline : doctypeLine (.str "html") (.str "") (.str "") = writeLine (0, .doctype) := by
    apply String.toList_inj.mp
    rw [toList_writeLine]
    simp [doctypeLine, Line.chars]
  have hleaf : leafLine indent (.ofKind (.doctype (.str "html") (.str "") (.str "")) location) =
      some (.ok (doctypeLine (.str "html") (.str "") (.str ""))) := by
    simp [leafLine, Label.ofKind, Kind.nodeName, Value.isText]
  rw [htmlDoctype, ofKind, lines, hleaf, hline]
  rfl

theorem leafLine_element {tag : String} (h : IsName tag) (depth : Int) (uri : Value)
    (attrs : Option (List Attribute)) (location : Option Location) :
    leafLine depth (.ofKind (.element (.str tag) attrs uri) location) = none := by
  have hne : ∀ s : String, '#' ∈ s.toList → ¬ (Value.str tag).isText s = true := by
    intro s hs ht
    obtain rfl := Value.str.inj (Value.isText_iff.mp ht)
    exact absurd (h.2 '#' hs) (by decide)
  have hname : (Label.ofKind (.element (.str tag) attrs uri) location).name = .str tag := rfl
  rw [leafLine, hname, if_neg (hne _ (by simp)), if_neg (hne _ (by simp)), if_neg (hne _ (by simp))]

theorem elementLines_eq {attrs : List Attribute} (h : ∀ a ∈ attrs, (nameText? a).isSome)
    (depth : Nat) (tag : Value) (uri : String) :
    elementLines depth (.element tag (some attrs) (.str uri)) =
      .ok (writeLine (depth, .element (elementName tag (.str uri))) ::
        ((attrs.mergeSort nameLE).map Attribute.line).map fun line =>
          writeLine (depth + 2, line)) := by
  have hline : margin depth ++ "<" ++ elementName tag (.str uri) ++ ">" =
      writeLine (depth, .element (elementName tag (.str uri))) := by
    apply String.toList_inj.mp
    rw [toList_writeLine]
    simp [margin, Line.chars]
  have hattrs := attributeLines_eq h (depth + 2)
  rw [Int.natCast_add, Int.cast_ofNat_Int] at hattrs
  rw [elementLines, qualifiedName_eq, hattrs, ← hline]
  rfl

theorem linesAll_eq {depth : Nat} {nodes : List Node}
    (h : ∀ node ∈ nodes, lines depth node = .ok ((entries depth node).map writeLine)) :
    linesAll depth nodes = .ok ((entriesAll depth nodes).map writeLine) := by
  induction nodes with
  | nil => rfl
  | cons node rest ih =>
    rw [linesAll, h node List.mem_cons_self, ih fun n hn => h n (List.mem_cons_of_mem _ hn),
      entriesAll, List.map_append]
    rfl

theorem writeLine_content (depth : Nat) :
    writeLine (depth + 2, .content) = margin (depth + 2) ++ "content" := by
  have hdepth : ((depth : Int) + 2).toNat = depth + 2 := by omega
  apply String.toList_inj.mp
  rw [toList_writeLine]
  simp [margin, Line.chars, hdepth]

theorem contentLines_eq {depth : Nat} {content : Option (Option Location × List Node)}
    (h : ∀ c ∈ content, ∀ child ∈ c.2,
      lines (depth + 4 : Nat) child = .ok ((entries (depth + 4) child).map writeLine)) :
    contentLines depth (content.map fragmentOf) =
      .ok ((contentEntries depth (content.map fragmentOf)).map writeLine) := by
  cases content with
  | none => rfl
  | some content =>
    have hbelow := linesAll_eq (h content rfl)
    rw [Int.natCast_add, Int.cast_ofNat_Int] at hbelow
    rw [Option.map_some, fragmentOf, ofKind, contentLines, contentEntries, hbelow, List.map_cons,
      writeLine_content]
    rfl

/-- The lines of a legible tree are those of its entries. -/
theorem lines_eq {depth : Nat} {node : Node} (h : IsLegible depth node) :
    lines depth node = .ok ((entries depth node).map writeLine) := by
  induction h with
  | doctype => exact lines_doctype _ _
  | text => exact lines_text _ _ _
  | comment => exact lines_comment _ _ _
  | @element depth tag uri attrs location children content htag huri hattrs hchildren hcontent
      ihchildren ihcontent =>
    have htext : ∀ a ∈ attrs, (nameText? a).isSome :=
      fun a ha => Attribute.nameText?_of_isLegible (hattrs a ha)
    have hbelow := linesAll_eq ihchildren
    rw [Int.natCast_add, Int.cast_ofNat_Int] at hbelow
    rw [entries_element, element, lines, leafLine_element htag]
    show (do
      let own ← elementLines depth (.element (.str tag) (some attrs) (.str uri))
      let content ← contentLines depth (content.map fragmentOf)
      let children ← linesAll (depth + 2) children
      return own ++ content ++ children) = _
    rw [elementLines_eq htext, contentLines_eq ihcontent, hbelow, Outcome.ok_bind, Outcome.ok_bind,
      Outcome.ok_bind, List.map_cons, List.map_append, List.map_append, List.cons_append,
      List.cons_append, List.append_assoc]
    simp only [List.map_map]
    rfl

/-- The dump of a tree whose name is that of a document or a fragment, and whose children are
legible. -/
theorem dump_of_isLegible {node : Node} (hn : node.label.name = .str "#document" ∨
      node.label.name = .str "#document-fragment") (hk : node.label.kind.hasChildren = true)
    (h : ∀ child ∈ node.children, IsLegible 0 child) (indent : Int) :
    node.dump indent = .ok ("\n".intercalate ((entriesAll 0 node.children).map writeLine)) := by
  have hlines : linesAll 0 node.children =
      .ok ((entriesAll 0 node.children).map writeLine) :=
    linesAll_eq fun child hc => lines_eq (h child hc)
  have hdump : dumpLines indent node = linesAll 0 node.children := by
    unfold dumpLines
    rcases hn with hn | hn <;> simp [hn, hk, Value.isContainer, Value.isText]
  rw [dump, hdump, hlines]
  rfl

end MarkupTree.Node
