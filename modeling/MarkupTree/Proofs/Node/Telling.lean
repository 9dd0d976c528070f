import Mathlib.Data.List.Forall2
import MarkupTree.Proofs.Node.Entries

/-!
# Telling trees from their dumps

The lines of a dump have no closing marks; only their depths tell where an element, a list of
attributes or a content ends. In a legible tree this is enough.

Results:

* `entriesAll_append_inj`: trees are told by their entries, whatever less deep lines follow.
* `isTold_of_isLegible`: this holds of every legible tree.
* `resembles_of_entriesAll`: trees with the same dump are the same up to the order of attributes.
-/

namespace MarkupTree.Node

/-! ## Trees up to order -/

/-- Whether two kinds are the same up to the order of attributes. -/
def Kind.Resembles : Kind → Kind → Prop
  | .element tag attrs uri, .element tag' attrs' uri' =>
    tag = tag' ∧ uri = uri' ∧ Option.Rel List.Perm attrs attrs'
  | kind, kind' => kind = kind'

/-- Whether two trees are the same up to the order of attributes and up to locations. -/
inductive Resembles : Node → Node → Prop
  | mk {label label' : Label} {children children' : List Node} {content content' : Option Node}
    (hkind : label.kind.Resembles label'.kind) (hname : label.name = label'.name)
    (hchildren : List.Forall₂ Resembles children children')
    (hcontent : Option.Rel Resembles content content') :
    Resembles (mk label children content) (mk label' children' content')

/-! ## What follows a tree -/

/-- Whether what follows, if anything does, starts at less than a depth. -/
def IsAbove (depth : Nat) (rest : List (Nat × Line)) : Prop :=
  ∀ entry ∈ rest.head?, entry.1 < depth

variable {depth : Nat} {rest rest' : List (Nat × Line)}

theorem IsAbove.mono {depth' : Nat} (h : IsAbove depth rest) (hle : depth ≤ depth') :
    IsAbove depth' rest :=
  fun entry he => Nat.lt_of_lt_of_le (h entry he) hle

theorem head_entries (depth : Nat) (node : Node) (rest : List (Nat × Line)) :
    (entries depth node ++ rest).head? = some (depth, node.label.kind.line) := by
  cases node
  rfl

/-- What comes first in several trees and what follows them: the line of a node, or what follows. -/
theorem head_entriesAll (depth : Nat) (nodes : List Node) (rest : List (Nat × Line)) :
    (∃ kind : Kind, (entriesAll depth nodes ++ rest).head? = some (depth, kind.line)) ∨
      entriesAll depth nodes ++ rest = rest := by
  cases nodes with
  | nil => exact .inr rfl
  | cons node nodes =>
    refine .inl ⟨node.label.kind, ?_⟩
    rw [entriesAll, List.append_assoc, head_entries]

theorem isAbove_entriesAll (h : IsAbove depth rest) (nodes : List Node) :
    IsAbove (depth + 1) (entriesAll depth nodes ++ rest) := by
  rcases head_entriesAll depth nodes rest with ⟨kind, hk⟩ | hr
  · intro entry he
    rw [hk] at he
    obtain rfl := Option.some.inj he
    exact Nat.lt_succ_self depth
  · rw [hr]
    exact h.mono (Nat.le_succ depth)

/-! ## Trees from their entries -/

/-- Whether a tree is told by its entries, up to the order of attributes, whatever less deep lines
follow. -/
def IsTold (depth : Nat) (node : Node) : Prop :=
  ∀ node' rest rest', IsLegible depth node' → IsAbove (depth + 1) rest →
    IsAbove (depth + 1) rest' → entries depth node ++ rest = entries depth node' ++ rest' →
      Resembles node node' ∧ rest = rest'

/-- Trees one after another are told by their entries if each of them is. -/
theorem entriesAll_append_inj {nodes nodes' : List Node} (h : ∀ node ∈ nodes, IsTold depth node)
    (h' : ∀ node ∈ nodes', IsLegible depth node) (hr : IsAbove depth rest)
    (hr' : IsAbove depth rest')
    (heq : entriesAll depth nodes ++ rest = entriesAll depth nodes' ++ rest') :
    List.Forall₂ Resembles nodes nodes' ∧ rest = rest' := by
  have hdepth : ∀ {node : Node} {nodes : List Node} {rest above : List (Nat × Line)},
      IsAbove depth above → entriesAll depth (node :: nodes) ++ rest ≠ above := by
    rintro node nodes rest above hr rfl
    rw [entriesAll, List.append_assoc] at hr
    exact absurd (hr _ (head_entries _ _ _)) (Nat.lt_irrefl depth)
  induction nodes generalizing nodes' with
  | nil =>
    cases nodes' with
    | nil => exact ⟨.nil, heq⟩
    | cons node' nodes' => exact absurd heq.symm (hdepth hr)
  | cons node nodes ih =>
    cases nodes' with
    | nil => exact absurd heq (hdepth hr')
    | cons node' nodes' =>
      rw [List.forall_mem_cons] at h h'
      rw [entriesAll, entriesAll, List.append_assoc, List.append_assoc] at heq
      obtain ⟨hnode, hrest⟩ := h.1 node' _ _ h'.1 (isAbove_entriesAll hr nodes)
        (isAbove_entriesAll hr' nodes') heq
      obtain ⟨hnodes, hrest⟩ := ih h.2 h'.2 hrest
      exact ⟨.cons hnode hnodes, hrest⟩

theorem elementName_html (tag : String) :
    elementName (.str tag) (.str Namespace.html) = tag := by
  simp [elementName, Value.isText, Namespace.html, Namespace.svg, Namespace.mathML]

theorem elementName_svg (tag : String) :
    elementName (.str tag) (.str Namespace.svg) = "svg " ++ tag := by
  simp [elementName, Value.isText]

/-- An element is shown under a name that tells its tag and its namespace. -/
theorem elementName_inj {tag tag' uri uri' : String} (ht : IsName tag) (ht' : IsName tag')
    (hu : uri = Namespace.html ∨ uri = Namespace.svg)
    (hu' : uri' = Namespace.html ∨ uri' = Namespace.svg)
    (h : elementName (.str tag) (.str uri) = elementName (.str tag') (.str uri')) :
    tag = tag' ∧ uri = uri' := by
  rcases hu with rfl | rfl <;> rcases hu' with rfl | rfl
  · rw [elementName_html, elementName_html] at h
    exact ⟨h, rfl⟩
  · rw [elementName_html, elementName_svg] at h
    subst h
    exact absurd (by simp) ht.blank_not_mem
  · rw [elementName_html, elementName_svg] at h
    subst h
    exact absurd (by simp) ht'.blank_not_mem
  · rw [elementName_svg, elementName_svg] at h
    have hlist := String.toList_inj.mpr h
    rw [String.toList_append, String.toList_append] at hlist
    exact ⟨String.toList_inj.mp (List.append_cancel_left hlist), rfl⟩

/-- A content is told by its entries, if what follows is not as deep and is no content. -/
theorem contentEntries_append_inj {content content' : Option (Option Location × List Node)}
    (h : ∀ c ∈ content, ∀ child ∈ c.2, IsTold (depth + 4) child)
    (h' : ∀ c ∈ content', ∀ child ∈ c.2, IsLegible (depth + 4) child)
    (hr : IsAbove (depth + 3) rest) (hr' : IsAbove (depth + 3) rest')
    (hn : ∀ entry ∈ rest.head?, entry ≠ (depth + 2, .content))
    (hn' : ∀ entry ∈ rest'.head?, entry ≠ (depth + 2, .content))
    (heq : contentEntries depth (content.map fragmentOf) ++ rest =
      contentEntries depth (content'.map fragmentOf) ++ rest') :
    Option.Rel Resembles (content.map fragmentOf) (content'.map fragmentOf) ∧ rest = rest' := by
  cases content with
  | none =>
    cases content' with
    | none => exact ⟨.none, heq⟩
    | some c' =>
      obtain rfl : rest = _ := heq
      exact absurd rfl (hn _ rfl)
  | some c =>
    cases content' with
    | none =>
      obtain rfl : _ = rest' := heq
      exact absurd rfl (hn' _ rfl)
    | some c' =>
      have hbelow : entriesAll (depth + 4) c.2 ++ rest = entriesAll (depth + 4) c'.2 ++ rest' :=
        (List.cons.inj heq).2
      obtain ⟨hchildren, hrest⟩ := entriesAll_append_inj (h c rfl) (h' c' rfl)
        (hr.mono (by omega)) (hr'.mono (by omega)) hbelow
      exact ⟨.some (.mk rfl rfl hchildren .none), hrest⟩

/-- The children of an element and what follows start with no attribute and with no content. -/
theorem head_ne_of_entriesAll (hr : IsAbove (depth + 1) rest) (children : List Node) :
    (∀ entry ∈ (entriesAll (depth + 2) children ++ rest).head?, entry ≠ (depth + 2, .content)) ∧
      ∀ name value, ∀ entry ∈ (entriesAll (depth + 2) children ++ rest).head?,
        entry ≠ (depth + 2, .attr name value) := by
  rcases head_entriesAll (depth + 2) children rest with ⟨kind, hk⟩ | hrest
  · rw [hk]
    constructor
    · rintro entry ⟨⟩
      cases kind <;> simp [Kind.line]
    · rintro name value entry ⟨⟩
      cases kind <;> simp [Kind.line]
  · have hne : ∀ line, ∀ entry ∈ rest.head?, entry ≠ (depth + 2, line) := by
      rintro line entry he rfl
      have hlt : depth + 2 < depth + 1 := hr _ he
      omega
    rw [hrest]
    exact ⟨hne .content, fun name value => hne (.attr name value)⟩

/-- Whether an entry is the line of an attribute of an element at a depth. -/
def isAttributeOf (depth : Nat) : Nat × Line → Bool
  | (d, .attr _ _) => d == depth + 2
  | _ => false

theorem isAttributeOf_iff {entry : Nat × Line} :
    isAttributeOf depth entry = true ↔ ∃ name value, entry = (depth + 2, .attr name value) := by
  obtain ⟨d, line⟩ := entry
  cases line <;> simp [isAttributeOf]

theorem isAttributeOf_attributes (attrs : List Attribute) :
    ∀ entry ∈ ((attrs.mergeSort nameLE).map Attribute.line).map (depth + 2, ·),
      isAttributeOf depth entry = true := by
  intro entry he
  obtain ⟨line, hl, rfl⟩ := List.mem_map.mp he
  obtain ⟨a, -, rfl⟩ := List.mem_map.mp hl
  exact isAttributeOf_iff.mpr ⟨_, _, rfl⟩

/-- The attributes of an element end where its content, its children or what follows start. -/
theorem head_not_isAttributeOf (hr : IsAbove (depth + 1) rest) (children : List Node)
    (content : Option (Option Location × List Node)) :
    ∀ entry ∈ (contentEntries depth (content.map fragmentOf) ++
      (entriesAll (depth + 2) children ++ rest)).head?, isAttributeOf depth entry = false := by
  intro entry he
  rw [← Bool.not_eq_true, isAttributeOf_iff]
  rintro ⟨name, value, rfl⟩
  cases content with
  | none => exact (head_ne_of_entriesAll hr children).2 name value _ he rfl
  | some content =>
    cases Option.some.inj he

/-! ## Telling trees -/

/-- A leaf is told by its entry if every legible tree with the same entry first is the same leaf. -/
theorem isTold_of_leaf {node : Node}
    (hentries : entries depth node = [(depth, node.label.kind.line)])
    (h : ∀ node', IsLegible depth node' → node.label.kind.line = node'.label.kind.line →
      Resembles node node' ∧ entries depth node' = [(depth, node'.label.kind.line)]) :
    IsTold depth node := by
  intro node' rest rest' hlegible _ _ heq
  have hline : node.label.kind.line = node'.label.kind.line := by
    have hhead := congrArg List.head? heq
    rw [head_entries, head_entries] at hhead
    exact (Prod.mk.inj (Option.some.inj hhead)).2
  obtain ⟨hresembles, hentries'⟩ := h node' hlegible hline
  rw [hentries, hentries', List.singleton_append, List.singleton_append] at heq
  exact ⟨hresembles, (List.cons.inj heq).2⟩

/-- An element is told by its entries if its children and the children of its content are. -/
theorem isTold_element {tag uri : String} {attrs : List Attribute} {location : Option Location}
    {children : List Node} {content : Option (Option Location × List Node)} (htag : IsName tag)
    (huri : uri = Namespace.html ∨ uri = Namespace.svg) (hattrs : ∀ a ∈ attrs, a.IsLegible)
    (hchildren : ∀ child ∈ children, IsTold (depth + 2) child)
    (hcontent : ∀ c ∈ content, ∀ child ∈ c.2, IsTold (depth + 4) child) :
    IsTold depth
      (.element (.str tag) attrs (.str uri) location children (content.map fragmentOf)) := by
  intro node' rest rest' hlegible hr hr' heq
  have hhead := congrArg List.head? heq
  rw [head_entries, head_entries] at hhead
  replace hhead := (Prod.mk.inj (Option.some.inj hhead)).2
  cases hlegible with
  | doctype => cases hhead
  | text => cases hhead
  | comment => cases hhead
  | @element _ tag' uri' attrs' location' children' content' htag' huri' hattrs' hchildren'
      hcontent' =>
    obtain ⟨rfl, rfl⟩ := elementName_inj htag htag' huri huri' (Line.element.inj hhead)
    rw [entries_element, entries_element, List.cons_append, List.cons_append, List.cons.injEq,
      List.append_assoc, List.append_assoc, List.append_assoc, List.append_assoc] at heq
    -- The attributes come first, then the content, and then the children.
    obtain ⟨hlines, heq⟩ := Lists.stretch_inj (isAttributeOf depth) (isAttributeOf_attributes attrs)
      (isAttributeOf_attributes attrs') (head_not_isAttributeOf hr children content)
      (head_not_isAttributeOf hr' children' content') heq.2
    have hperm : attrs.Perm attrs' := by
      apply Attribute.perm_of_lines hattrs hattrs'
      exact (List.map_inj_right fun _ _ h => (Prod.mk.inj h).2).mp hlines
    have hrest := hr.mono (Nat.le_succ (depth + 1))
    have hrest' := hr'.mono (Nat.le_succ (depth + 1))
    obtain ⟨hcontents, heq⟩ := contentEntries_append_inj hcontent hcontent'
      (isAbove_entriesAll hrest children) (isAbove_entriesAll hrest' children')
      (head_ne_of_entriesAll hr children).1 (head_ne_of_entriesAll hr' children').1 heq
    obtain ⟨hnodes, heq⟩ := entriesAll_append_inj hchildren hchildren' hrest hrest' heq
    exact ⟨.mk ⟨rfl, rfl, .some hperm⟩ rfl hnodes hcontents, heq⟩

/-- A legible tree is told by its entries. -/
theorem isTold_of_isLegible {node : Node} (h : IsLegible depth node) : IsTold depth node := by
  induction h with
  | doctype =>
    refine isTold_of_leaf rfl fun node' h' hline => ?_
    cases h' with
    | doctype => exact ⟨.mk rfl rfl .nil .none, rfl⟩
    | _ => cases hline
  | text hvalue =>
    refine isTold_of_leaf rfl fun node' h' hline => ?_
    cases h' with
    | text hvalue' =>
      obtain rfl : _ = _ := Line.text.inj hline
      exact ⟨.mk rfl rfl .nil .none, rfl⟩
    | _ => cases hline
  | comment hdata =>
    refine isTold_of_leaf rfl fun node' h' hline => ?_
    cases h' with
    | comment hdata' =>
      obtain rfl : _ = _ := Line.comment.inj hline
      exact ⟨.mk rfl rfl .nil .none, rfl⟩
    | _ => cases hline
  | element htag huri hattrs _ _ ihchildren ihcontent =>
    exact isTold_element htag huri hattrs ihchildren ihcontent

/-! ## Telling trees from dumps -/

theorem isShownName_elementName {tag uri : String} (ht : IsName tag)
    (hu : uri = Namespace.html ∨ uri = Namespace.svg) :
    IsShownName (elementName (.str tag) (.str uri)) := by
  rcases hu with rfl | rfl
  · rw [elementName_html]
    exact ht.isShownName
  · rw [elementName_svg]
    have hsvg : IsName "svg" := by decide
    exact hsvg.isShownName_append ht

theorem forall_mem_entriesAll {p : Nat × Line → Prop} {nodes : List Node}
    (h : ∀ node ∈ nodes, ∀ entry ∈ entries depth node, p entry) :
    ∀ entry ∈ entriesAll depth nodes, p entry := by
  induction nodes with
  | nil => exact List.forall_mem_nil _
  | cons node nodes ih =>
    rw [List.forall_mem_cons] at h
    rw [entriesAll, List.forall_mem_append]
    exact ⟨h.1, ih h.2⟩

/-- What stands on the lines of a legible tree can be told. -/
theorem isLegible_of_mem_entries {node : Node} (h : IsLegible depth node) :
    ∀ entry ∈ entries depth node, entry.2.IsLegible := by
  induction h with
  | doctype => exact List.forall_mem_singleton.mpr trivial
  | text hvalue => exact List.forall_mem_singleton.mpr hvalue
  | comment hdata => exact List.forall_mem_singleton.mpr hdata
  | @element depth tag uri attrs location children content htag huri hattrs _ _ ihchildren
      ihcontent =>
    rw [entries_element, List.forall_mem_cons, List.forall_mem_append, List.forall_mem_append]
    refine ⟨isShownName_elementName htag huri, ?_, ?_, forall_mem_entriesAll ihchildren⟩
    · intro entry he
      obtain ⟨line, hl, rfl⟩ := List.mem_map.mp he
      obtain ⟨a, ha, rfl⟩ := List.mem_map.mp hl
      exact Attribute.isLegible_line (hattrs a ((List.mergeSort_perm _ _).mem_iff.mp ha))
    · cases content with
      | none => exact List.forall_mem_nil _
      | some content =>
        exact List.forall_mem_cons.mpr ⟨trivial, forall_mem_entriesAll (ihcontent content rfl)⟩

/-- Trees whose dumps are the same have the same children, up to the order of attributes and up to
locations, if the children are legible. -/
theorem resembles_of_entriesAll {nodes nodes' : List Node} (h : ∀ node ∈ nodes, IsLegible 0 node)
    (h' : ∀ node ∈ nodes', IsLegible 0 node)
    (heq : "\n".intercalate ((entriesAll 0 nodes).map writeLine) =
      "\n".intercalate ((entriesAll 0 nodes').map writeLine)) :
    List.Forall₂ Resembles nodes nodes' := by
  have hlegible := forall_mem_entriesAll fun node hn => isLegible_of_mem_entries (h node hn)
  have hlegible' := forall_mem_entriesAll fun node hn => isLegible_of_mem_entries (h' node hn)
  have hline : ∀ {es : List (Nat × Line)}, (∀ entry ∈ es, entry.2.IsLegible) →
      ∀ s ∈ es.map writeLine, Text.IsLine s := by
    intro es hes s hs
    obtain ⟨entry, he, rfl⟩ := List.mem_map.mp hs
    exact isLine_writeLine (hes entry he).isUnbroken
  have hlines := Text.lines_inj (hline hlegible) (hline hlegible') heq
  have hentries : entriesAll 0 nodes = entriesAll 0 nodes' :=
    Lists.map_inj_of (p := fun entry => entry.2.IsLegible) (fun _ _ => writeLine_inj) hlegible
      hlegible' hlines
  have habove : IsAbove 0 [] := fun entry he => by contradiction
  have happend : entriesAll 0 nodes ++ [] = entriesAll 0 nodes' ++ [] := by rw [hentries]
  exact (entriesAll_append_inj (fun node hn => isTold_of_isLegible (h node hn)) h' habove habove
    happend).1

end MarkupTree.Node
