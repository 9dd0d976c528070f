import MarkupTree.Proofs.Attribute.Foreign
import MarkupTree.Proofs.Conversion.Regular
import MarkupTree.Proofs.Node.Telling

/-!
# Dumps of converted trees

Two converted trees with the same dump are the same, up to the order of attributes and up to
locations, if all names in them are names, no value has a line break, and documents and doctypes are
where a parser puts them.

Results:

* `givesLegible`: what a conversion makes is legible.
* `resembles_of_dump`: the dump of a converted tree determines it.
-/

namespace MarkupTree

namespace Node

/-- Whether a value is a name. -/
def IsNameText : Value → Prop
  | .str s => IsName s
  | _ => False

/-- Whether a value is a text without line breaks. -/
def IsUnbroken : Value → Prop
  | .str s => '\n' ∉ s.toList
  | _ => False

/-- Whether the names that a node holds are names and the other data are texts without line
breaks. -/
def Kind.IsPlain : Kind → Prop
  | .element tag attrs _ =>
    IsNameText tag ∧ ∀ a ∈ attrs.getD [], IsNameText a.name ∧ IsUnbroken a.value
  | .text value => IsUnbroken value
  | .comment data => IsUnbroken data
  | _ => True

/-- Whether a tree that stands in a document has plain data, with no document in it and no doctype
below its top. -/
structure IsClear (node : Node) : Prop where
  documents : ∀ n ∈ node.preorder, ∀ mode, n.label.kind ≠ .document mode
  doctypes : ∀ n ∈ node.preorder.tail, ∀ name publicId systemId,
    n.label.kind ≠ .doctype name publicId systemId
  data : ∀ n ∈ node.preorder, n.label.kind.IsPlain

theorem mem_tail_preorder {node part n : Node} (hp : part ∈ node.parts) (hn : n ∈ part.preorder) :
    n ∈ node.preorder.tail := by
  rw [preorder_eq]
  exact List.mem_flatMap.mpr ⟨part, hp, hn⟩

theorem IsClear.of_mem_parts {node part : Node} (h : node.IsClear) (hp : part ∈ node.parts) :
    part.IsClear where
  documents n hn := h.documents n (mem_preorder_of_mem_parts hp hn)
  doctypes n hn := h.doctypes n (mem_tail_preorder hp (List.mem_of_mem_tail hn))
  data n hn := h.data n (mem_preorder_of_mem_parts hp hn)

theorem exists_str_of_isNameText {v : Value} (h : IsNameText v) : ∃ s, v = .str s ∧ IsName s := by
  cases v with
  | str s => exact ⟨s, rfl, h⟩
  | _ => exact h.elim

theorem exists_str_of_isUnbroken {v : Value} (h : IsUnbroken v) :
    ∃ s, v = .str s ∧ '\n' ∉ s.toList := by
  cases v with
  | str s => exact ⟨s, rfl, h⟩
  | _ => exact h.elim

end Node

namespace Conversion

open Command (Space)
open Node (IsName IsLegible)
open Source (field Place)

/-! ## Conversions give legible trees -/

theorem isLegible_attributes {space : Space} {properties : Value} {attrs : List Attribute}
    (h : Attribute.ofProperties space.schema properties = .ok attrs)
    (hdata : ∀ a ∈ attrs, Node.IsNameText a.name ∧ Node.IsUnbroken a.value) :
    ∀ a ∈ attrs, a.IsLegible := by
  intro a ha
  obtain ⟨hname, hvalue⟩ := hdata a ha
  obtain ⟨name, hn, hname⟩ := Node.exists_str_of_isNameText hname
  obtain ⟨value, hv, hvalue⟩ := Node.exists_str_of_isUnbroken hvalue
  exact Attribute.isLegible_of_mem h ha hn hname hv hvalue

theorem uri_cases (space : Space) :
    space.uri = Namespace.html ∨ space.uri = Namespace.svg := by
  cases space
  · exact .inl rfl
  · exact .inr rfl

/-- Whether what a conversion makes of a place, which is not read as a fragment, is legible, at any
depth if it is no doctype. -/
def GivesLegible (place : Place) : Prop :=
  place.asFragment = false → ∀ (space : Space) (node : Node) (depth : Nat),
    nodeAt space.schema place = .ok node → node.IsClear →
      (depth = 0 ∨ ∀ name publicId systemId,
        node.label.kind ≠ .doctype name publicId systemId) → IsLegible depth node

/-- The children of a clear node are legible at any depth. -/
theorem isLegible_children {space : Space} {place : Place} {node : Node}
    (hs : Step space.schema place node) (hclear : node.IsClear)
    (ih : ∀ part ∈ place.children, GivesLegible part) (depth : Nat) :
    ∀ child ∈ node.children, IsLegible depth child := by
  intro child hc
  have hp : child ∈ node.parts := List.mem_append_left _ hc
  obtain ⟨part, hpart, hchild⟩ := exists_of_forall₂_right hs.children hc
  refine ih part hpart (asFragment_of_mem_children hpart) space child depth hchild
    (hclear.of_mem_parts hp) (.inr ?_)
  exact hclear.doctypes child (Node.mem_tail_preorder hp child.mem_preorder_self)

/-- The content of a clear template is a fragment with children that are legible at any depth. -/
theorem exists_fragmentOf {space : Space} {place : Place} {node : Node}
    (hs : Step space.schema place node) (hclear : node.IsClear)
    (ih : ∀ part ∈ place.content.toList, ∀ inner ∈ part.children, GivesLegible inner)
    (depth : Nat) :
    ∃ content : Option (Option Location × List Node),
      node.content = content.map Node.fragmentOf ∧
        ∀ c ∈ content, ∀ child ∈ c.2, IsLegible depth child := by
  cases hc : node.content with
  | none => exact ⟨none, rfl, fun c h => by contradiction⟩
  | some inner =>
    have hmem : inner ∈ node.content.toList := by rw [hc]; exact List.mem_singleton_self _
    obtain ⟨part, hpart, hinner⟩ := exists_of_forall₂_right hs.content hmem
    have hf := asFragment_of_mem_content hpart
    have hstep := step_of_nodeAt hinner
    rw [schemaAt_schema] at hstep
    have hkind := kind_of_asFragment hf hstep.kind
    have heq := (regular_of_step hstep).eq_ofKind (by rw [hkind]; rfl)
    rw [hkind] at heq
    refine ⟨some (inner.label.location, inner.children), congrArg some heq, ?_⟩
    rintro c ⟨⟩
    exact isLegible_children hstep (hclear.of_mem_parts (List.mem_append_right _ hmem))
      (ih part hpart) depth

theorem isLegible_of_step {space : Space} {place : Place} {node : Node} {depth : Nat}
    (hs : Step space.schema place node) (hf : place.asFragment = false) (hclear : node.IsClear)
    (hdepth : depth = 0 ∨ ∀ name publicId systemId,
      node.label.kind ≠ .doctype name publicId systemId)
    (ihchildren : ∀ part ∈ place.children, GivesLegible part)
    (ihcontent : ∀ part ∈ place.content.toList, ∀ inner ∈ part.children, GivesLegible inner) :
    IsLegible depth node := by
  have hr := regular_of_step hs
  have hdata := hclear.data node node.mem_preorder_self
  have hkind := hs.kind
  cases hk : node.label.kind with
  | plain =>
    rw [hk] at hkind
    exact hkind.elim
  | parent =>
    rw [hk] at hkind
    exact hkind.elim
  | document mode => exact absurd hk (hclear.documents node node.mem_preorder_self mode)
  | fragment =>
    rw [hk] at hkind
    rw [asFragment_of_describes hkind] at hf
    contradiction
  | text value =>
    rw [hk] at hdata
    obtain ⟨s, rfl, hs⟩ := Node.exists_str_of_isUnbroken hdata
    rw [hr.eq_leaf hk rfl rfl]
    exact .text hs
  | comment data =>
    rw [hk] at hdata
    obtain ⟨s, rfl, hs⟩ := Node.exists_str_of_isUnbroken hdata
    rw [hr.eq_leaf hk rfl rfl]
    exact .comment hs
  | doctype name publicId systemId =>
    rw [hk] at hkind
    obtain ⟨-, rfl, rfl, rfl⟩ := hkind
    rcases hdepth with rfl | hne
    · rw [hr.eq_leaf hk rfl rfl]
      exact .doctype
    · exact absurd hk (hne _ _ _)
  | element tag attrs uri =>
    rw [hk] at hdata
    obtain ⟨⟨list, rfl, hattrs⟩, huri⟩ := hs.element tag attrs uri hk
    rw [elementNamespace_schema] at huri
    obtain rfl := Except.ok.inj huri
    obtain ⟨htag, hplain⟩ := hdata
    obtain ⟨s, rfl, hname⟩ := Node.exists_str_of_isNameText htag
    obtain ⟨content, hcontent, hbelow⟩ := exists_fragmentOf hs hclear ihcontent (depth + 4)
    rw [hr.eq_element hk, hcontent]
    exact .element hname (uri_cases space) (isLegible_attributes hattrs hplain)
      (isLegible_children hs hclear ihchildren (depth + 2)) hbelow

/-- What is made of every place is legible. -/
theorem givesLegible (place : Place) : GivesLegible place := by
  intro hf space node depth h hclear hdepth
  have hs := step_of_nodeAt h
  rw [schemaAt_schema] at hs
  refine isLegible_of_step hs hf hclear hdepth ?_ ?_
  · intro part hp
    have := Place.sizeOf_lt_of_mem_children hp
    exact givesLegible part
  · intro part hp inner hi
    have := Place.sizeOf_lt_of_mem_content (Option.mem_toList.mp hp)
    have := Place.sizeOf_lt_of_mem_children hi
    exact givesLegible inner
termination_by sizeOf place.value

/-! ## Roots -/

theorem kind?_start_of_isRoot {tree : Value} (h : isRoot tree = true) (asFragment : Bool) :
    (Place.start tree asFragment).kind? = none ∨
      (Place.start tree asFragment).kind? = some .root := by
  have hroot : Source.kind? (Source.fieldsOf tree) = some .root := by
    cases tree with
    | obj fields => exact beq_iff_eq.mp h
    | _ => contradiction
  rw [Place.kind?]
  split
  · exact .inl rfl
  · exact .inr hroot

/-- The node of a root is a document or a fragment. -/
theorem name_of_isRoot {tree : Value} {asFragment : Bool} {space : Space} {root : Node}
    (htree : isRoot tree = true) (hs : Step space.schema (.start tree asFragment) root) :
    (root.label.name = .str "#document" ∨ root.label.name = .str "#document-fragment") ∧
      root.label.kind.hasChildren = true := by
  have hkind := hs.kind
  rw [hs.name]
  cases hk : root.label.kind with
  | document mode => exact ⟨.inl rfl, rfl⟩
  | fragment => exact ⟨.inr rfl, rfl⟩
  | plain =>
    rw [hk] at hkind
    exact hkind.elim
  | parent =>
    rw [hk] at hkind
    exact hkind.elim
  | _ =>
    rw [hk, Describes] at hkind
    rcases kind?_start_of_isRoot htree asFragment with hp | hp <;> rw [hp] at hkind <;>
      exact absurd hkind.1 (by simp)

/-- The dump of a converted root, if what is right below it is clear. -/
theorem dump_documentTree {tree space : Value} {asFragment : Bool} {root : Node}
    (htree : isRoot tree = true) (h : documentTree tree space asFragment = .ok root)
    (hclear : ∀ child ∈ root.children, child.IsClear) :
    (∀ child ∈ root.children, IsLegible 0 child) ∧
      root.dump 0 =
        .ok ("\n".intercalate ((Node.entriesAll 0 root.children).map Node.writeLine)) := by
  obtain ⟨start, hn⟩ := exists_space_of_documentTree h
  have hs := step_of_nodeAt hn
  rw [schemaAt_schema] at hs
  obtain ⟨hname, hk⟩ := name_of_isRoot htree hs
  have hlegible : ∀ child ∈ root.children, IsLegible 0 child := by
    intro child hc
    obtain ⟨part, hpart, hchild⟩ := exists_of_forall₂_right hs.children hc
    exact givesLegible part (asFragment_of_mem_children hpart) _ child 0 hchild (hclear child hc)
      (.inl rfl)
  exact ⟨hlegible, Node.dump_of_isLegible hname hk hlegible 0⟩

/-- If two converted roots have the same dump, then their children are the same trees, up to the
order of attributes and up to locations, as long as below the roots all names are names, all other
data are texts without line breaks, no document stands there, and doctypes only right below. -/
theorem resembles_of_dump {tree tree' space space' : Value} {asFragment asFragment' : Bool}
    {root root' : Node} (htree : isRoot tree = true) (htree' : isRoot tree' = true)
    (h : documentTree tree space asFragment = .ok root)
    (h' : documentTree tree' space' asFragment' = .ok root')
    (hclear : ∀ child ∈ root.children, child.IsClear)
    (hclear' : ∀ child ∈ root'.children, child.IsClear) (hdump : root.dump 0 = root'.dump 0) :
    List.Forall₂ Node.Resembles root.children root'.children := by
  obtain ⟨hlegible, hd⟩ := dump_documentTree htree h hclear
  obtain ⟨hlegible', hd'⟩ := dump_documentTree htree' h' hclear'
  rw [hd, hd'] at hdump
  exact Node.resembles_of_entriesAll hlegible hlegible' (Except.ok.inj hdump)

/-- A root with a doctype and a paragraph, which comes from a position. -/
def article (position : Value) : Value :=
  .obj [("type", .str "root"), ("children", .arr
    [.obj [("type", .str "doctype")],
     .obj [("type", .str "element"), ("tagName", .str "p"), ("position", position),
       ("children", .arr [.obj [("type", .str "text"), ("value", .str "<b>\"")]])]])]

/-- The nodes below the root of such a tree. -/
def articleNodes (location : Option Location) : List Node :=
  [.htmlDoctype none,
   .element (.str "p") [] (.str Namespace.html) location
     [.ofKind (.text (.str "<b>\"")) none []] none]

theorem isClear_articleNodes (location : Option Location) :
    ∀ child ∈ articleNodes location, child.IsClear := by
  have hname : IsName "p" := by decide
  rw [articleNodes, List.forall_mem_cons, List.forall_mem_singleton]
  constructor
  · constructor <;>
      simp [Node.preorder, Node.preorderOpt, Node.htmlDoctype, Node.ofKind, Node.Label.ofKind,
        Node.Kind.IsPlain]
  · constructor <;>
      simp [Node.preorder, Node.preorderOpt, Node.element, Node.ofKind, Node.Label.ofKind,
        Node.Kind.IsPlain, Node.IsNameText, Node.IsUnbroken, hname]

/-- A location that tells two lines. -/
def twoLines : Location :=
  ⟨.int ⟨3, by decide⟩, .null, .null, .int ⟨4, by decide⟩, .null, .null⟩

theorem resembles_of_dump_article :
    ∃ tree tree' root root', isRoot tree = true ∧ isRoot tree' = true ∧
      documentTree tree (.str "html") false = .ok root ∧
      documentTree tree' (.str "html") true = .ok root' ∧
      (∀ child ∈ root.children, child.IsClear) ∧ (∀ child ∈ root'.children, child.IsClear) ∧
      root.dump 0 = root'.dump 0 ∧ List.Forall₂ Node.Resembles root.children root'.children := by
  have h : documentTree (article .null) (.str "html") false =
      .ok (.ofKind (.document (.str "no-quirks")) none (articleNodes none)) := rfl
  have h' : documentTree (article (.obj [("start", .obj [("line", .int ⟨3, by decide⟩)]),
      ("end", .obj [("line", .int ⟨4, by decide⟩)])])) (.str "html") true =
      .ok (.ofKind .fragment none (articleNodes (some twoLines))) := rfl
  have hclear := isClear_articleNodes none
  have hclear' := isClear_articleNodes (some twoLines)
  have hd := (dump_documentTree rfl h hclear).2
  have hd' := (dump_documentTree rfl h' hclear').2
  have hdump := hd.trans hd'.symm
  exact ⟨_, _, _, _, rfl, rfl, h, h', hclear, hclear', hdump,
    resembles_of_dump rfl rfl h h' hclear hclear' hdump⟩

end Conversion

end MarkupTree
