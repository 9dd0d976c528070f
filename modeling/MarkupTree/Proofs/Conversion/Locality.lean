import MarkupTree.Proofs.Conversion.Links
import MarkupTree.Proofs.Conversion.Made

/-!
# Locality of a conversion

What a value in a source tree is converted to depends on the value and on the space in which it
stands, and nothing else depends on it but the node that it is converted to.

Results:

* `nodeAt_of_sameNode`: a node depends on its children and its content through their nodes alone.
* `at?_of_nodeAt`: what stands at the end of a path has a node at the end of the same path.
* `nodeAt_replace`: if a value in a source tree is replaced, the conversion of the new value, and
  its failure, take the place of those of the old one.
* `convert_replace`: what this says of two forests that the two trees were converted into.
-/

namespace MarkupTree

/-- The space inside of elements with these tags that stand in a space. -/
def Command.Space.insideAll (space : Command.Space) (tags : List Value) : Command.Space :=
  if tags.any (·.isText "svg") then .svg else space

namespace Conversion

open Command (Space)
open Outcome (bind_eq_ok pure_eq_ok)
open Source (field Place SameNode)

variable {schema : Schema}

/-! ## Spaces along a path -/

theorem insideAll_tags (space : Space) (place : Place) (tags : List Value) :
    space.insideAll (place.tag?.toList ++ tags) = (spaceAt space place).insideAll tags := by
  rw [spaceAt, Place.tag?]
  split
  · rw [Space.insideAll, Space.insideAll, Space.inside, Option.toList_some, List.singleton_append,
      List.any_cons]
    cases (field place.fields "tagName").isText "svg" <;> cases tags.any (·.isText "svg") <;> rfl
  · rfl

/-! ## A node and what is below it -/

/-- The content of the node that a place stands for. -/
def contentAt (schema : Schema) (place : Place) : Except Failure (Option Node) :=
  if place.isTemplate then some <$> fragment schema (field place.fields "content") else .ok none

theorem fragment_of_sameNode {fields fields' : List (String × Value)} {node : Node}
    (h : fragment schema (.obj fields) = .ok node) (hs : SameNode fields fields') :
    fragment schema (.obj fields') = do
      let children ← childList schema (field fields' "children")
      return .mk node.label children none := by
  rw [fragment_obj, bind_eq_ok] at h
  obtain ⟨children, -, h⟩ := h
  rw [bind_eq_ok] at h
  obtain ⟨location, hl, h⟩ := h
  obtain rfl := pure_eq_ok.mp h
  rw [fragment_obj, hs.location, hl]
  rfl

theorem convert_root_of_sameNode {fields fields' : List (String × Value)} {node : Node}
    (hk : Source.kind? fields = some .root) (h : convert schema (.obj fields) = .ok node)
    (hs : SameNode fields fields') :
    convert schema (.obj fields') = do
      let children ← childList schema (field fields' "children")
      return .mk node.label children none := by
  have hmode : Source.mode fields' = Source.mode fields :=
    Source.mode_congr (hs "data" (by decide) (by decide))
  rw [convert_root hk, bind_eq_ok] at h
  obtain ⟨mode, hm, h⟩ := h
  rw [bind_eq_ok] at h
  obtain ⟨children, -, h⟩ := h
  rw [bind_eq_ok] at h
  obtain ⟨location, hl, h⟩ := h
  obtain rfl := pure_eq_ok.mp h
  rw [convert_root (hs.kind?.trans hk), hmode, hm, hs.location, hl]
  rfl

theorem convert_element_of_sameNode {fields fields' : List (String × Value)} {node : Node}
    (hk : Source.kind? fields = some .element) (h : convert schema (.obj fields) = .ok node)
    (hs : SameNode fields fields') :
    convert schema (.obj fields') = do
      let children ← childList (schemaFor schema (field fields "tagName")) (field fields' "children")
      let content ← contentOf (schemaFor schema (field fields "tagName")) (field fields' "tagName")
        (field fields' "content")
      return .mk node.label children content := by
  have htag : fields'.lookup "tagName" = fields.lookup "tagName" :=
    hs "tagName" (by decide) (by decide)
  have hproperties : field fields' "properties" = field fields "properties" :=
    Source.field_congr (hs "properties" (by decide) (by decide))
  cases ht : fields.lookup "tagName" with
  | none =>
    rw [convert_element_of_no_tag hk ht] at h
    contradiction
  | some tag =>
    have hfield : field fields "tagName" = tag := by rw [field, ht, Option.getD_some]
    rw [convert_element hk ht, bind_eq_ok] at h
    obtain ⟨attrs, ha, h⟩ := h
    rw [bind_eq_ok] at h
    obtain ⟨uri, hu, h⟩ := h
    rw [bind_eq_ok] at h
    obtain ⟨location, hl, h⟩ := h
    rw [bind_eq_ok] at h
    obtain ⟨children, -, h⟩ := h
    rw [bind_eq_ok] at h
    obtain ⟨content, -, h⟩ := h
    obtain rfl := pure_eq_ok.mp h
    rw [convert_element (hs.kind?.trans hk) (htag.trans ht), hproperties, ha, hu,
      hs.location, hl, Source.field_congr htag, hfield]
    rfl

/-- If a place has a node, a place that agrees with it on all but the children and the content has
a node if they can be converted, and a node that differs in nothing else. -/
theorem nodeAt_of_sameNode {fields fields' : List (String × Value)} {asFragment : Bool} {node : Node}
    (h : nodeAt schema ⟨.obj fields, asFragment⟩ = .ok node)
    (hp : (⟨.obj fields, asFragment⟩ : Place).isParent = true) (hs : SameNode fields fields') :
    nodeAt schema ⟨.obj fields', asFragment⟩ = do
      let children ← childList (schemaAt schema ⟨.obj fields, asFragment⟩) (field fields' "children")
      let content ← contentAt (schemaAt schema ⟨.obj fields, asFragment⟩) ⟨.obj fields', asFragment⟩
      return .mk node.label children content := by
  cases asFragment with
  | true =>
    have hnone : (⟨.obj fields, true⟩ : Place).kind? ≠ some .element := by simp [Place.kind?]
    rw [schemaAt_of_ne_element hnone]
    exact fragment_of_sameNode h hs
  | false =>
    have hplace : (⟨.obj fields, false⟩ : Place).kind? = Source.kind? fields := rfl
    have hplace' : (⟨.obj fields', false⟩ : Place).kind? = Source.kind? fields := hs.kind?
    rw [contentAt, Place.isTemplate, hplace']
    cases hk : Source.kind? fields with
    | none =>
      rw [nodeAt, if_neg Bool.false_ne_true, convert_of_no_kind hk] at h
      contradiction
    | some kind =>
      cases kind with
      | root =>
        rw [schemaAt_of_ne_element (by rw [hplace, hk]; simp)]
        exact convert_root_of_sameNode hk h hs
      | element =>
        rw [schemaAt_element (hplace.trans hk)]
        exact convert_element_of_sameNode hk h hs
      | _ =>
        rw [isParent_leaf hk rfl] at hp
        contradiction

/-! ## Replacing one child -/

/-- If one of the items is changed, its node changes. -/
theorem convertAll_modify {items : List Value} {nodes : List Node} {i : Nat} {v : Value}
    {f : Value → Value} {x : Except Failure Node} {g : Node → Node → Node}
    (h : convertAll schema items = .ok nodes) (hv : items[i]? = some v)
    (hf : ∀ node, convert schema v = .ok node → convert schema (f v) = x.map (g node)) :
    convertAll schema (items.modify i f) = x.map fun new => nodes.modify i (g · new) := by
  induction items generalizing i nodes with
  | nil => contradiction
  | cons first rest ih =>
    rw [convertAll, bind_eq_ok] at h
    obtain ⟨node, hn, h⟩ := h
    rw [bind_eq_ok] at h
    obtain ⟨others, ho, h⟩ := h
    obtain rfl := pure_eq_ok.mp h
    cases i with
    | zero =>
      obtain rfl := Option.some.inj hv
      rw [List.modify_zero_cons, convertAll, hf node hn, ho]
      cases x <;> rfl
    | succ i =>
      rw [List.modify_succ_cons, convertAll, hn, ih ho hv]
      cases x <;> rfl

/-- The children and the content of a place that has a node can be converted. -/
theorem parts_of_nodeAt {fields : List (String × Value)} {asFragment : Bool} {node : Node}
    (h : nodeAt schema ⟨.obj fields, asFragment⟩ = .ok node)
    (hp : (⟨.obj fields, asFragment⟩ : Place).isParent = true) :
    childList (schemaAt schema ⟨.obj fields, asFragment⟩) (field fields "children") =
        .ok node.children ∧
      contentAt (schemaAt schema ⟨.obj fields, asFragment⟩) ⟨.obj fields, asFragment⟩ =
        .ok node.content := by
  have hself := nodeAt_of_sameNode h hp fun _ _ _ => rfl
  rw [h] at hself
  obtain ⟨children, hc, hself⟩ := bind_eq_ok.mp hself.symm
  obtain ⟨content, hn, hself⟩ := bind_eq_ok.mp hself
  rw [← pure_eq_ok.mp hself]
  exact ⟨hc, hn⟩

/-- The node with other children. -/
theorem nodeAt_set_children {fields : List (String × Value)} {asFragment : Bool} {node : Node}
    (h : nodeAt schema ⟨.obj fields, asFragment⟩ = .ok node)
    (hp : (⟨.obj fields, asFragment⟩ : Place).isParent = true) (v : Value) :
    nodeAt schema ⟨.obj (Fields.set "children" v fields), asFragment⟩ = do
      let children ← childList (schemaAt schema ⟨.obj fields, asFragment⟩) v
      return .mk node.label children node.content := by
  have hsame := Source.sameNode_set_children fields v
  have hcontent := (parts_of_nodeAt h hp).2
  have hfield : field (Fields.set "children" v fields) "content" = field fields "content" :=
    Source.field_congr (Fields.lookup_set_of_ne (by decide) _ _)
  rw [contentAt, Place.fields, Source.fieldsOf_obj] at hcontent
  rw [nodeAt_of_sameNode h hp hsame, contentAt, hsame.isTemplate, Place.fields, Source.fieldsOf_obj,
    hfield, hcontent, Source.field_set_self]
  rfl

/-- The template with another content. -/
theorem nodeAt_set_content {fields : List (String × Value)} {asFragment : Bool} {node : Node}
    (h : nodeAt schema ⟨.obj fields, asFragment⟩ = .ok node)
    (ht : (⟨.obj fields, asFragment⟩ : Place).isTemplate = true) (v : Value) :
    nodeAt schema ⟨.obj (Fields.set "content" v fields), asFragment⟩ = do
      let content ← fragment (schemaAt schema ⟨.obj fields, asFragment⟩) v
      return .mk node.label node.children (some content) := by
  have hp := Place.isParent_of_isTemplate ht
  have hsame := Source.sameNode_set_content fields v
  have hfield : field (Fields.set "content" v fields) "children" = field fields "children" :=
    Source.field_congr (Fields.lookup_set_of_ne (by decide) _ _)
  rw [nodeAt_of_sameNode h hp hsame, contentAt, hsame.isTemplate, if_pos ht, Place.fields,
    Source.fieldsOf_obj, hfield, (parts_of_nodeAt h hp).1, Source.field_set_self]
  cases fragment (schemaAt schema ⟨.obj fields, asFragment⟩) v <;> rfl

/-! ## Replacing a value -/

variable {space : Space}

/-- What stands at the end of a path has a node, which stands at the end of the same path. -/
theorem at?_of_nodeAt {place old : Place} {node : Node} {path : Path}
    (h : nodeAt space.schema place = .ok node) (hold : place.at? path = some old) :
    ∃ oldNode, node.at? path = some oldNode ∧
      nodeAt (space.insideAll (place.tagsAlong path)).schema old = .ok oldNode := by
  induction path generalizing space place node with
  | nil =>
    obtain rfl := Option.some.inj hold
    exact ⟨node, rfl, h⟩
  | cons branch path ih =>
    rw [Place.at?, Option.bind_eq_some_iff] at hold
    obtain ⟨part, hpart, hold⟩ := hold
    have hs := step_of_nodeAt h
    rw [schemaAt_schema] at hs
    obtain ⟨child, hbranch, hchild⟩ := Branch.exists_get?_of_forall₂
      (R := fun _ part child => nodeAt (spaceAt space place).schema part = .ok child)
      (fun _ => hs.children) hs.content hpart
    obtain ⟨oldNode, hnode, hold⟩ := ih hchild hold
    refine ⟨oldNode, ?_, ?_⟩
    · rw [Node.at?, Node.part?, hbranch, Option.bind_some, hnode]
    · rw [Place.tagsAlong, hpart, insideAll_tags]
      exact hold

section Branch

variable {fields : List (String × Value)} {asFragment : Bool} {node : Node} {path : Path} {u : Value}
  {x : Except Failure Node}

/-- A replacement in a child replaces the node of the child. -/
theorem nodeAt_replace_child {i : Nat} {items : List Value} {v : Value}
    (h : nodeAt schema ⟨.obj fields, asFragment⟩ = .ok node)
    (hp : (⟨.obj fields, asFragment⟩ : Place).isParent = true)
    (hitems : field fields "children" = .arr items) (hv : items[i]? = some v)
    (hx : ∀ child, convert (schemaAt schema ⟨.obj fields, asFragment⟩) v = .ok child →
      convert (schemaAt schema ⟨.obj fields, asFragment⟩) ((⟨v, false⟩ : Place).replace path u) =
        x.map (child.replace path)) :
    nodeAt schema ⟨(⟨.obj fields, asFragment⟩ : Place).replace (.child i :: path) u, asFragment⟩ =
      x.map (node.replace (.child i :: path)) := by
  have hchildren := (parts_of_nodeAt h hp).1
  rw [hitems] at hchildren
  rw [Place.replace, Place.fields, Source.fieldsOf_obj, hitems, Source.itemsOf,
    nodeAt_set_children h hp, childList, convertAll_modify hchildren hv hx]
  obtain ⟨label, children, content⟩ := node
  cases x <;> rfl

/-- A replacement in a content replaces the node of the content. -/
theorem nodeAt_replace_content (h : nodeAt schema ⟨.obj fields, asFragment⟩ = .ok node)
    (ht : (⟨.obj fields, asFragment⟩ : Place).isTemplate = true)
    (hx : ∀ content,
      fragment (schemaAt schema ⟨.obj fields, asFragment⟩) (field fields "content") = .ok content →
        fragment (schemaAt schema ⟨.obj fields, asFragment⟩)
          ((⟨Source.orEmpty (field fields "content"), true⟩ : Place).replace path u) =
            x.map (content.replace path)) :
    nodeAt schema ⟨(⟨.obj fields, asFragment⟩ : Place).replace (.content :: path) u, asFragment⟩ =
      x.map (node.replace (.content :: path)) := by
  have hcontent := (parts_of_nodeAt h (Place.isParent_of_isTemplate ht)).2
  rw [contentAt, if_pos ht, map_eq_pure_bind, bind_eq_ok] at hcontent
  obtain ⟨content, hcontent, hnode⟩ := hcontent
  replace hnode := pure_eq_ok.mp hnode
  rw [Place.replace, Place.fields, Source.fieldsOf_obj, nodeAt_set_content h ht,
    hx content hcontent]
  obtain ⟨label, children, content⟩ := node
  rw [Node.content_mk] at hnode
  subst hnode
  cases x <;> rfl

end Branch

/-- If a value in a source tree is replaced, the conversion of the new value, and its failure, take
the place of those of the old one. The space in which the new value is converted is determined by
the initial space and the tags along the path. -/
theorem nodeAt_replace {place old : Place} {node : Node} {path : Path}
    (h : nodeAt space.schema place = .ok node) (hold : place.at? path = some old) (u : Value) :
    nodeAt space.schema ⟨place.replace path u, place.asFragment⟩ =
      (nodeAt (space.insideAll (place.tagsAlong path)).schema ⟨u, old.asFragment⟩).map
        (node.replace path) := by
  -- Along the path the space changes at each element, and the rest of the tags applies to that space.
  induction path generalizing space place node with
  | nil =>
    obtain rfl := Option.some.inj hold
    rw [Place.replace, Place.tagsAlong]
    show nodeAt space.schema ⟨u, place.asFragment⟩ =
      (nodeAt space.schema ⟨u, place.asFragment⟩).map fun new => new
    cases nodeAt space.schema ⟨u, place.asFragment⟩ <;> rfl
  | cons branch path ih =>
    rw [Place.at?, Option.bind_eq_some_iff] at hold
    obtain ⟨part, hpart, hold⟩ := hold
    rw [Place.tagsAlong, hpart, Option.elim_some, insideAll_tags]
    obtain ⟨value, asFragment⟩ := place
    have hvalue := Place.value_eq_obj_of_part? hpart
    cases value with
    | obj fields =>
      cases branch with
      | child i =>
        obtain ⟨hp, items, v, hitems, hv, rfl⟩ := Place.part?_child hpart
        refine nodeAt_replace_child h hp hitems hv fun child hchild => ?_
        rw [schemaAt_schema] at hchild ⊢
        have hplace : nodeAt (spaceAt space ⟨.obj fields, asFragment⟩).schema ⟨v, false⟩ = .ok child :=
          hchild
        exact ih hplace hold
      | content =>
        obtain ⟨ht, rfl⟩ := Place.part?_content hpart
        refine nodeAt_replace_content h ht fun content hcontent => ?_
        rw [schemaAt_schema] at hcontent ⊢
        have hplace : nodeAt (spaceAt space ⟨.obj fields, asFragment⟩).schema
            ⟨Source.orEmpty (field fields "content"), true⟩ = .ok content :=
          (fragment_orEmpty _ _).trans hcontent
        exact ih hplace hold
    | _ => contradiction

end Conversion

namespace Forest

open Command (Space)
open Conversion
open Source (Place)

/-- What two forests say of a tree and of the same tree with the node at the end of a path replaced
by another. -/
structure Replaced (forest forest' : Forest) (root : Nat) (path : Path) (new : Node) : Prop where
  tree : forest'.tree root = (forest.tree root).replace path new
  /-- The new node is reached where the old one was, and has the same parent. -/
  stands : ∃ n, forest.descend root path = some n ∧ forest'.descend root path = some n ∧
    forest'.tree n = new ∧ forest'.parent? n = forest.parent? n
  /-- No node elsewhere differs in what it says of itself. -/
  elsewhere : ∀ other, ¬ path <+: other →
    ((forest'.tree root).at? other).map Node.label = ((forest.tree root).at? other).map Node.label
  /-- In both trees parents are where the paths come from. -/
  parents : forest.ParentsByPath root ∧ forest'.ParentsByPath root

theorem replaced_plant (forest : Forest) (id : String) {node old : Node} {path : Path} (new : Node)
    (h : node.at? path = some old) :
    Replaced (forest.plant id node) (forest.plant id (node.replace path new)) forest.cells.size path
      new := by
  have hfind : ∀ node, (forest.plant id node).find id = .ok forest.cells.size :=
    fun _ => find_bind_self _ _ _
  have h₁ := forest.planted_plant id node
  have h₂ := forest.planted_plant id (node.replace path new)
  have hparents₁ := h₁.parentsByPath (mem_live_of_find (hfind _))
  have hparents₂ := h₂.parentsByPath (mem_live_of_find (hfind _))
  obtain ⟨n, hn₂, _, hplanted⟩ := h₂.descend_of_at? (Node.at?_replace h new)
  have hn₁ := (h₁.descend_replace h₂ (List.prefix_refl path)).symm.trans hn₂
  -- The parent stands where the path comes from, and no place along the path has moved.
  have hparent : (forest.plant id (node.replace path new)).parent? n =
      (forest.plant id node).parent? n := by
    rw [hparents₁ path n hn₁, hparents₂ path n hn₂]
    rcases List.eq_nil_or_concat path with rfl | ⟨front, branch, rfl⟩
    · rfl
    · rw [List.concat_eq_append] at h₂ ⊢
      cases branch with
      | content => rw [Path.parent?_content, Option.bind_none, Option.bind_none]
      | child i =>
        rw [Path.parent?_child, Option.bind_some, Option.bind_some,
          h₁.descend_replace h₂ (List.prefix_append front _)]
  refine
    { tree := ?_
      stands := ⟨n, hn₁, hn₂, hplanted.tree_eq, hparent⟩
      elsewhere := ?_
      parents := ⟨hparents₁, hparents₂⟩ }
  · rw [h₁.tree_eq, h₂.tree_eq]
  · intro other hother
    rw [h₁.tree_eq, h₂.tree_eq]
    exact Node.label_at?_replace hother node new

/-- If a value below the top of a source tree is replaced, and the tree can be converted before and
after, then the two conversions differ in the node at the end of the same path alone. The new node
is what the new value is converted to by itself, as a fragment if it is a content, in the space that
follows from the initial space and the tags along the path. -/
theorem convert_replace {forest forest₁ forest₂ : Forest} {id : String} {tree u : Value}
    {space : Space} {asFragment : Bool} {path : Path} {old : Place} (hne : path ≠ [])
    (hold : (Place.start tree asFragment).at? path = some old)
    (h₁ : forest.convert id tree (.str space.name) asFragment = .ok forest₁)
    (h₂ : forest.convert id ((Place.start tree asFragment).replace path u) (.str space.name)
      asFragment = .ok forest₂) :
    ∃ root new, forest₁.find id = .ok root ∧ forest₂.find id = .ok root ∧
      nodeAt (space.insideAll ((Place.start tree asFragment).tagsAlong path)).schema
        ⟨u, path.getLast? == some .content⟩ = .ok new ∧
      Replaced forest₁ forest₂ root path new := by
  obtain ⟨node, hnode, rfl⟩ := exists_plant_of_convert h₁
  obtain ⟨node', hnode', rfl⟩ := exists_plant_of_convert h₂
  rw [documentTree_eq _ space.ofSpace?_name] at hnode hnode'
  rw [Place.start_replace hne] at hnode'
  obtain ⟨oldNode, hat, -⟩ := at?_of_nodeAt hnode hold
  rw [nodeAt_replace hnode hold, Place.asFragment_of_at? hne hold] at hnode'
  cases hnew : nodeAt (space.insideAll ((Place.start tree asFragment).tagsAlong path)).schema
      ⟨u, path.getLast? == some .content⟩ with
  | error e =>
    rw [hnew] at hnode'
    contradiction
  | ok new =>
    rw [hnew] at hnode'
    obtain rfl := Except.ok.inj hnode'
    exact ⟨forest.cells.size, new, find_bind_self _ _ _, find_bind_self _ _ _, rfl,
      replaced_plant forest id new hat⟩

/-- A root that holds a template in an `svg` element, with a content that holds a root. -/
def framed : Value :=
  .obj [("type", .str "root"), ("children", .arr
    [.obj [("type", .str "element"), ("tagName", .str "svg"), ("children", .arr
      [.obj [("type", .str "comment")],
       .obj [("type", .str "element"), ("tagName", .str "template"),
        ("content", .obj [("type", .str "text"), ("children", .arr
          [.obj [("type", .str "root"), ("children", .arr [.obj [("type", .str "doctype")]])]])])]])],
     .obj [("type", .str "text"), ("value", .str "a")]])]

/-- An element that replaces the doctype in `framed`. -/
def inset : Value :=
  .obj [("type", .str "element"), ("tagName", .str "a"), ("children", .arr
    [.obj [("type", .str "text"), ("value", .str "b")]])]

/-- The path to the doctype in `framed`. -/
def framedPath : Path := [.child 0, .child 1, .content, .child 0, .child 0]

theorem convert_replace_framed :
    ∃ old forest₁ forest₂,
      (Place.start framed false).at? framedPath = some old ∧
      Forest.empty.convert "r" framed (.str Space.html.name) false = .ok forest₁ ∧
      Forest.empty.convert "r" ((Place.start framed false).replace framedPath inset)
        (.str Space.html.name) false = .ok forest₂ ∧
      ∃ root new, forest₁.find "r" = .ok root ∧ forest₂.find "r" = .ok root ∧
        nodeAt (Space.html.insideAll ((Place.start framed false).tagsAlong framedPath)).schema
          ⟨inset, framedPath.getLast? == some .content⟩ = .ok new ∧
        Replaced forest₁ forest₂ root framedPath new := by
  have hold : (Place.start framed false).at? framedPath =
    some ⟨.obj [("type", .str "doctype")], false⟩ := rfl
  have h₁ : Forest.empty.convert "r" framed (.str Space.html.name) false = .ok _ := rfl
  have h₂ : Forest.empty.convert "r" ((Place.start framed false).replace framedPath inset)
    (.str Space.html.name) false = .ok _ := rfl
  exact ⟨_, _, _, hold, h₁, h₂, convert_replace (List.cons_ne_nil _ _) hold h₁ h₂⟩

end Forest

end MarkupTree
