import MarkupTree.Proofs.Lists
import MarkupTree.Proofs.Node.Data

/-!
# Trees and their objects

A conversion gives a node the name of its kind, makes no nodes of no particular kind, and gives
qualifiers only to attributes in a namespace. The object of such a node shows all that the node
holds, unless it is an element that is shown under the name of fragments.

Results:

* `exists_below_of_toValue`: the object of a node has the fields of its kind.
* `fields_append_inj`: these fields tell the kind, and what follows them.
* `toValue_injective`: a tree is determined by its object.
-/

namespace MarkupTree.Node

/-- Whether a conversion may make nodes of this kind. -/
def Kind.IsRegular : Kind → Prop
  | .plain => False
  | .parent => False
  | .element _ attrs _ =>
    ∃ list, attrs = some list ∧ ∀ a ∈ list, a.isForeign = false → a.qualifier = .null
  | _ => True

/-- Whether a node is as a conversion makes nodes of its kind. -/
structure IsRegular (node : Node) : Prop where
  kind : node.label.kind.IsRegular
  name : node.label.name = node.label.kind.nodeName
  children : node.label.kind.hasChildren = false → node.children = []
  content : node.label.kind.hasContent = false → node.content = none

/-- Whether a node is an element that is shown under the name of fragments. -/
def IsFragmentElement (node : Node) : Prop :=
  ∃ attrs uri, node.label.kind = .element (.str "#document-fragment") attrs uri

theorem IsRegular.eq_ofKind {node : Node} (h : node.IsRegular)
    (hk : node.label.kind.hasContent = false) :
    node = .ofKind node.label.kind node.label.location node.children := by
  have hname := h.name
  have hcontent := h.content hk
  obtain ⟨⟨kind, name, location⟩, children, content⟩ := node
  obtain rfl : name = kind.nodeName := hname
  obtain rfl : content = none := hcontent
  rfl

theorem IsRegular.eq_leaf {node : Node} {kind : Kind} (h : node.IsRegular)
    (hk : node.label.kind = kind) (hc : kind.hasChildren = false) (hn : kind.hasContent = false) :
    node = .ofKind kind node.label.location [] := by
  subst hk
  have heq := h.eq_ofKind hn
  rw [h.children hc] at heq
  exact heq

theorem IsRegular.eq_element {node : Node} {tag uri : Value} {attrs : List Attribute}
    (h : node.IsRegular) (hk : node.label.kind = .element tag (some attrs) uri) :
    node = .element tag attrs uri node.label.location node.children node.content := by
  have hname := h.name
  obtain ⟨⟨kind, name, location⟩, children, content⟩ := node
  obtain rfl : kind = .element tag (some attrs) uri := hk
  obtain rfl : name = tag := hname
  rfl

/-! ## The object of a regular node -/

/-- Whether fields are those that a node has for what is below it. -/
def IsBelow (node : Node) (below : List (String × Value)) : Prop :=
  if node.label.kind.hasChildren then ShowsBelow node.children node.content below else below = []

theorem fields_of_name {node : Node} (hr : node.IsRegular) (hf : ¬ node.IsFragmentElement)
    (h : node.label.name = .str "#document-fragment") : node.label.kind.fields = [] := by
  have hkind := hr.kind
  rw [hr.name] at h
  cases hk : node.label.kind with
  | element tag attrs uri =>
    rw [hk] at h
    obtain rfl : tag = .str "#document-fragment" := h
    exact absurd ⟨attrs, uri, hk⟩ hf
  | fragment => rfl
  | plain => rfl
  | parent => rfl
  | _ =>
    rw [hk] at h
    simp [Kind.nodeName] at h

/-- A node is shown with the fields of its kind, and what is below it if it can have children. -/
theorem exists_below_of_toValue {node : Node} {data : Value} (hr : node.IsRegular)
    (hf : ¬ node.IsFragmentElement) (h : node.toValue = .ok data) :
    ∃ below, data = withFields node.label (node.label.kind.fields ++ below) ∧
      node.IsBelow below := by
  cases shows_of_toValue h with
  | leaf hown =>
    obtain ⟨rfl, hk⟩ := leafFields_eq_ok hown
    refine ⟨[], by rw [List.append_nil, label_mk], ?_⟩
    rw [IsBelow, label_mk, hk]
    rfl
  | @parent label children content own below _ hown hk hb =>
    have hfields : own = label.kind.fields := by
      rcases ownFields_eq_ok hown with rfl | ⟨hname, rfl⟩
      · rfl
      · exact (fields_of_name hr hf hname).symm
    refine ⟨below, by rw [hfields, label_mk], ?_⟩
    rw [IsBelow, label_mk, hk]
    exact hb

/-! ## What the object tells -/

theorem attributes_inj {list list' : List Attribute}
    (h : ∀ a ∈ list, a.isForeign = false → a.qualifier = .null)
    (h' : ∀ a ∈ list', a.isForeign = false → a.qualifier = .null)
    (heq : list.map Attribute.toValue = list'.map Attribute.toValue) : list = list' := by
  refine Lists.map_inj_of ?_ h h' heq
  intro a b ha hb hab
  refine Attribute.toValue_injective (fun hn => ?_) hab
  rw [ha hn, hb (Attribute.isForeign_congr hab ▸ hn)]

theorem locationFields_injective {location location' : Option Location}
    (h : locationFields location = locationFields location') : location = location' := by
  cases location with
  | none =>
    cases location' with
    | none => rfl
    | some _ => contradiction
  | some l =>
    cases location' with
    | none => contradiction
    | some l' =>
      simp only [locationFields, List.cons.injEq, Prod.mk.injEq, true_and, and_true] at h
      rw [Location.toValue_injective h]

/-- The first key after the name in the object of a node of a kind. -/
def Kind.firstKey : Kind → String
  | .document _ => "mode"
  | .element .. => "tagName"
  | .text _ => "value"
  | .comment _ => "data"
  | .doctype .. => "name"
  | _ => "childNodes"

variable {k k' : Kind} {tail tail' : List (String × Value)}

theorem head_fields_append (hk : k.IsRegular)
    (ht : k.hasChildren = true → tail.head?.map Prod.fst = some "childNodes") :
    (k.fields ++ tail).head?.map Prod.fst = some k.firstKey := by
  cases k with
  | plain => exact hk.elim
  | parent => exact hk.elim
  | fragment => exact ht rfl
  | _ => rfl

/-- The fields of a kind tell the kind, and what follows them, if the children follow wherever there
can be any. -/
theorem fields_append_inj (hk : k.IsRegular) (hk' : k'.IsRegular)
    (ht : k.hasChildren = true → tail.head?.map Prod.fst = some "childNodes")
    (ht' : k'.hasChildren = true → tail'.head?.map Prod.fst = some "childNodes")
    (h : k.fields ++ tail = k'.fields ++ tail') : k = k' ∧ tail = tail' := by
  have hfirst : k.firstKey = k'.firstKey := by
    rw [← Option.some.injEq, ← head_fields_append hk ht, h, head_fields_append hk' ht']
  cases k with
  | plain => exact hk.elim
  | parent => exact hk.elim
  | document mode =>
    cases k' with
    | document mode' => simpa [Kind.fields] using h
    | _ => exact absurd hfirst (by simp [Kind.firstKey])
  | fragment =>
    cases k' with
    | plain => exact hk'.elim
    | parent => exact hk'.elim
    | fragment => exact ⟨rfl, h⟩
    | _ => exact absurd hfirst (by simp [Kind.firstKey])
  | element tag attrs uri =>
    cases k' with
    | element tag' attrs' uri' =>
      obtain ⟨list, rfl, hlist⟩ := hk
      obtain ⟨list', rfl, hlist'⟩ := hk'
      simp only [Kind.fields, Option.getD_some, List.cons_append, List.nil_append, List.cons.injEq,
        Prod.mk.injEq, true_and, Value.arr.injEq] at h
      obtain ⟨rfl, hattrs, rfl, rfl⟩ := h
      rw [attributes_inj hlist hlist' hattrs]
      exact ⟨rfl, rfl⟩
    | _ => exact absurd hfirst (by simp [Kind.firstKey])
  | text value =>
    cases k' with
    | text value' => simpa [Kind.fields] using h
    | _ => exact absurd hfirst (by simp [Kind.firstKey])
  | comment data =>
    cases k' with
    | comment data' => simpa [Kind.fields] using h
    | _ => exact absurd hfirst (by simp [Kind.firstKey])
  | doctype name publicId systemId =>
    cases k' with
    | doctype name' publicId' systemId' => simpa [Kind.fields, and_assoc] using h
    | _ => exact absurd hfirst (by simp [Kind.firstKey])

/-! ## What is below -/

theorem head_showsBelow {children : List Node} {content : Option Node}
    {below : List (String × Value)} (h : ShowsBelow children content below)
    (tail : List (String × Value)) : (below ++ tail).head?.map Prod.fst = some "childNodes" := by
  cases h <;> rfl

theorem head_below {node : Node} {below : List (String × Value)} (h : node.IsBelow below)
    (hk : node.label.kind.hasChildren = true) (tail : List (String × Value)) :
    (below ++ tail).head?.map Prod.fst = some "childNodes" := by
  rw [IsBelow, if_pos hk] at h
  exact head_showsBelow h tail

/-- Nodes are the same if the same objects show them, and an object shows one of them only. -/
theorem eq_of_forall₂ {nodes nodes' : List Node} {vs : List Value}
    (h : List.Forall₂ (fun node v => node.toValue = .ok v) nodes vs)
    (h' : List.Forall₂ (fun node v => node.toValue = .ok v) nodes' vs)
    (hinj : ∀ node ∈ nodes, ∀ node' ∈ nodes', ∀ v, node.toValue = .ok v → node'.toValue = .ok v →
      node = node') : nodes = nodes' := by
  induction h generalizing nodes' with
  | nil =>
    cases h'
    rfl
  | @cons node v nodes vs hv _ ih =>
    cases h' with
    | @cons node' _ nodes' _ hv' hvs' =>
      have hhead := hinj node List.mem_cons_self node' List.mem_cons_self v hv hv'
      have htail := ih hvs' fun n hn n' hn' =>
        hinj n (List.mem_cons_of_mem _ hn) n' (List.mem_cons_of_mem _ hn')
      rw [hhead, htail]

/-- What is below a node tells its children, its content, and the location that follows. -/
theorem below_append_inj {children children' : List Node} {content content' : Option Node}
    {below below' : List (String × Value)} {location location' : Option Location}
    (h : ShowsBelow children content below) (h' : ShowsBelow children' content' below')
    (hinj : ∀ part ∈ children ++ content.toList, ∀ part' ∈ children' ++ content'.toList, ∀ v,
      part.toValue = .ok v → part'.toValue = .ok v → part = part')
    (heq : below ++ locationFields location = below' ++ locationFields location') :
    children = children' ∧ content = content' ∧ location = location' := by
  have hchildren : ∀ {vs : List Value},
      List.Forall₂ (fun node v => node.toValue = .ok v) children vs →
      List.Forall₂ (fun node v => node.toValue = .ok v) children' vs → children = children' :=
    fun hvs hvs' => eq_of_forall₂ hvs hvs' fun n hn n' hn' =>
      hinj n (List.mem_append_left _ hn) n' (List.mem_append_left _ hn')
  cases h with
  | plain hvs =>
    cases h' with
    | plain hvs' =>
      simp only [List.cons_append, List.nil_append, List.cons.injEq, Prod.mk.injEq, true_and,
        Value.arr.injEq] at heq
      obtain ⟨rfl, hloc⟩ := heq
      exact ⟨hchildren hvs hvs', rfl, locationFields_injective hloc⟩
    | template hvs' hv' =>
      cases location <;> simp [locationFields] at heq
  | template hvs hv =>
    cases h' with
    | plain hvs' =>
      cases location' <;> simp [locationFields] at heq
    | template hvs' hv' =>
      simp only [List.cons_append, List.nil_append, List.cons.injEq, Prod.mk.injEq, true_and,
        Value.arr.injEq] at heq
      obtain ⟨rfl, rfl, hloc⟩ := heq
      have hcontent := hinj _ (List.mem_append_right _ (by simp)) _
        (List.mem_append_right _ (by simp)) _ hv hv'
      exact ⟨hchildren hvs hvs', congrArg some hcontent, locationFields_injective hloc⟩

/-- Nodes of one kind with the same below them and the same location are the same, if what is below
them is told by its objects. -/
theorem parts_inj {a b : Node} {below below' : List (String × Value)} (ha : a.IsRegular)
    (hb : b.IsRegular) (hk : a.label.kind = b.label.kind) (hba : a.IsBelow below)
    (hbb : b.IsBelow below')
    (hinj : ∀ part ∈ a.parts, ∀ part' ∈ b.parts, ∀ v,
      part.toValue = .ok v → part'.toValue = .ok v → part = part')
    (h : below ++ locationFields a.label.location = below' ++ locationFields b.label.location) :
    a.children = b.children ∧ a.content = b.content ∧ a.label.location = b.label.location := by
  rw [IsBelow] at hba hbb
  rw [← hk] at hbb
  cases hc : a.label.kind.hasChildren with
  | false =>
    have hnone : a.label.kind.hasContent = false := by
      cases hkind : a.label.kind with
      | element => simp [hkind, Kind.hasChildren] at hc
      | _ => rfl
    rw [hc] at hba hbb
    obtain rfl : below = [] := hba
    obtain rfl : below' = [] := hbb
    rw [ha.children hc, hb.children (hk ▸ hc), ha.content hnone, hb.content (hk ▸ hnone)]
    exact ⟨rfl, rfl, locationFields_injective h⟩
  | true =>
    rw [hc] at hba hbb
    exact below_append_inj hba hbb hinj h

/-! ## Trees -/

/-- Whether a tree is as a conversion makes trees, without elements that are shown as fragments. -/
def IsShown (node : Node) : Prop := ∀ n ∈ node.preorder, n.IsRegular ∧ ¬ n.IsFragmentElement

theorem IsShown.of_mem_parts {node part : Node} (h : node.IsShown) (hp : part ∈ node.parts) :
    part.IsShown :=
  fun n hn => h n (mem_preorder_of_mem_parts hp hn)

theorem IsShown.self {node : Node} (h : node.IsShown) :
    node.IsRegular ∧ ¬ node.IsFragmentElement :=
  h node node.mem_preorder_self

/-- A tree is determined by its object. -/
theorem toValue_injective {a b : Node} {data : Value} (ha : a.IsShown) (hb : b.IsShown)
    (hva : a.toValue = .ok data) (hvb : b.toValue = .ok data) : a = b := by
  induction a using Node.induction generalizing b data with
  | mk label children content ihchildren ihcontent =>
    obtain ⟨label', children', content'⟩ := b
    obtain ⟨hra, hfa⟩ := ha.self
    obtain ⟨hrb, hfb⟩ := hb.self
    obtain ⟨below, hda, hba⟩ := exists_below_of_toValue hra hfa hva
    obtain ⟨below', hdb, hbb⟩ := exists_below_of_toValue hrb hfb hvb
    have hinj : ∀ part ∈ children ++ content.toList, ∀ part' ∈ children' ++ content'.toList, ∀ v,
        part.toValue = .ok v → part'.toValue = .ok v → part = part' := by
      intro part hp part' hp' v hv hv'
      have hpart := ha.of_mem_parts hp
      have hpart' := hb.of_mem_parts hp'
      rcases List.mem_append.mp hp with hc | hc
      · exact ihchildren part hc hpart hpart' hv hv'
      · exact ihcontent part (Option.mem_toList.mp hc) hpart hpart' hv hv'
    rw [hda, withFields, withFields, Value.obj.injEq, List.cons_append, List.cons_append,
      List.cons.injEq, List.append_assoc, List.append_assoc] at hdb
    obtain ⟨-, hfields⟩ := hdb
    obtain ⟨hkind, htail⟩ := fields_append_inj hra.kind hrb.kind
      (fun hk => head_below hba hk _) (fun hk => head_below hbb hk _) hfields
    obtain ⟨hchildren, hcontent, hlocation⟩ := parts_inj hra hrb hkind hba hbb hinj htail
    have hlabel : label = label' := by
      obtain ⟨kind, name, location⟩ := label
      obtain ⟨kind', name', location'⟩ := label'
      obtain rfl : kind = kind' := hkind
      obtain rfl : location = location' := hlocation
      have hn : name = kind.nodeName := hra.name
      have hn' : name' = kind.nodeName := hrb.name
      rw [hn, hn']
    obtain rfl := hlabel
    obtain rfl : children = children' := hchildren
    obtain rfl : content = content' := hcontent
    rfl

end MarkupTree.Node
