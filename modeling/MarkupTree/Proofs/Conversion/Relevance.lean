import MarkupTree.Proofs.Conversion.Steps
import MarkupTree.Proofs.Source.Relevant

/-!
# What a conversion reads

A conversion reads no field of a source node that does not matter for nodes of its type, neither
when it succeeds nor when it fails. So whatever these fields hold, it gives the same tree or the
same failure.

Results:

* `convert_congr`: a conversion depends on the fields that matter alone.
* `nodeAt_strip`: a place and its stripped form are converted alike.
* `documentTree_strip`: so are trees with the same stripped form.
-/

namespace MarkupTree.Conversion

open Source (field Place strip stripAll stripChildren stripContent stripFields relevantKeys)

variable {schema : Schema} {fields : List (String × Value)} {keys : List String}

/-- The place with only the fields that matter. -/
def stripAt (place : Place) : Place :=
  ⟨if place.asFragment then stripContent place.value else strip place.value, place.asFragment⟩

/-! ## Children and contents -/

theorem convertAll_stripAll {items : List Value}
    (h : ∀ v ∈ items, convert schema (strip v) = convert schema v) :
    convertAll schema (stripAll items) = convertAll schema items := by
  induction items with
  | nil => rfl
  | cons v rest ih =>
    rw [stripAll, convertAll, convertAll, h v List.mem_cons_self,
      ih fun w hw => h w (List.mem_cons_of_mem _ hw)]

theorem childList_stripChildren {v : Value}
    (h : ∀ item ∈ Source.itemsOf v, convert schema (strip item) = convert schema item) :
    childList schema (stripChildren v) = childList schema v := by
  cases v with
  | arr items => exact convertAll_stripAll h
  | _ => rfl

/-- A fragment reads no fields but the children and the position, whatever else there is. -/
theorem fragment_stripFields (hc : "children" ∈ keys) (hp : "position" ∈ keys)
    (h : ∀ item ∈ Source.itemsOf (field fields "children"),
      convert schema (strip item) = convert schema item) :
    fragment schema (.obj (stripFields keys fields)) = fragment schema (.obj fields) := by
  rw [fragment_obj, fragment_obj, Source.field_stripFields_children hc, childList_stripChildren h,
    Source.location_stripFields hp]

theorem fragment_stripContent_orEmpty (schema : Schema) (v : Value) :
    fragment schema (stripContent (Source.orEmpty v)) = fragment schema (stripContent v) := by
  rw [Source.orEmpty]
  split
  · rfl
  · rename_i hv
    cases v with
    | obj fields =>
      cases fields with
      | nil => rfl
      | cons => exact absurd rfl hv
    | _ => exact (fragment_of_ne_obj (by simp)).trans (if_neg hv) |>.symm

/-! ## Nodes of each type -/

/-- Whether other fields hold the same under every key that matters, but for the children and the
content. -/
def SameRelevant (fields fields' : List (String × Value)) : Prop :=
  ∀ key ∈ relevantKeys fields, key ≠ "children" → key ≠ "content" →
    fields'.lookup key = fields.lookup key

theorem SameRelevant.kind? {fields' : List (String × Value)} (h : SameRelevant fields fields') :
    Source.kind? fields' = Source.kind? fields :=
  Source.kind?_congr (h "type" (Source.type_mem_relevantKeys fields) (by decide) (by decide))

theorem isTemplate_of_lookup {tag : Value} (hk : Source.kind? fields = some .element)
    (ht : fields.lookup "tagName" = some tag) :
    (⟨.obj fields, false⟩ : Place).isTemplate = tag.isText "template" := by
  have hplace : (⟨.obj fields, false⟩ : Place).kind? = some .element := hk
  rw [Place.isTemplate, hplace, beq_self_eq_true, Bool.true_and, Place.fields, Source.fieldsOf_obj,
    field, ht, Option.getD_some]

/-- Sources that hold the same under every key that matters are converted alike, if this is so of
their children and contents. -/
theorem convert_congr {fields' : List (String × Value)} (hs : SameRelevant fields fields')
    (hchildren : (⟨.obj fields, false⟩ : Place).isParent = true → ∀ schema,
      childList schema (field fields' "children") = childList schema (field fields "children"))
    (hcontent : (⟨.obj fields, false⟩ : Place).isTemplate = true → ∀ schema,
      fragment schema (field fields' "content") = fragment schema (field fields "content")) :
    convert schema (.obj fields') = convert schema (.obj fields) := by
  have hkind := hs.kind?
  have hplace : (⟨.obj fields, false⟩ : Place).kind? = Source.kind? fields := rfl
  rw [Place.isParent, hplace] at hchildren
  cases hk : Source.kind? fields with
  | none =>
    rw [convert_of_no_kind hk, convert_of_no_kind (hkind.trans hk),
      Source.field_congr (hs "type" (Source.type_mem_relevantKeys fields) (by decide) (by decide))]
  | some kind =>
    rw [hk] at hchildren
    have hkept : ∀ key ∈ kind.keys, key ≠ "children" → key ≠ "content" →
      fields'.lookup key = fields.lookup key := fun key h => hs key (Source.mem_relevantKeys hk h)
    have hlocation : Source.location fields' = Source.location fields :=
      Source.location_congr (hkept "position" kind.position_mem_keys (by decide) (by decide))
    cases kind with
    | root =>
      have hmode : Source.mode fields' = Source.mode fields :=
        Source.mode_congr (hkept "data" (by decide) (by decide) (by decide))
      rw [convert_root hk, convert_root (hkind.trans hk), hmode, hchildren rfl, hlocation]
    | element =>
      have htag : fields'.lookup "tagName" = fields.lookup "tagName" :=
        hkept "tagName" (by decide) (by decide) (by decide)
      have hproperties : field fields' "properties" = field fields "properties" :=
        Source.field_congr (hkept "properties" (by decide) (by decide) (by decide))
      cases ht : fields.lookup "tagName" with
      | none =>
        rw [convert_element_of_no_tag hk ht,
          convert_element_of_no_tag (hkind.trans hk) (htag.trans ht)]
      | some tag =>
        have hcontentOf : ∀ schema, contentOf schema tag (field fields' "content") =
            contentOf schema tag (field fields "content") := by
          intro schema
          rw [contentOf, contentOf]
          split
          · rename_i htemplate
            rw [hcontent ((isTemplate_of_lookup hk ht).trans htemplate)]
          · rfl
        rw [convert_element hk ht, convert_element (hkind.trans hk) (htag.trans ht), hproperties,
          hlocation, hchildren rfl, hcontentOf]
    | doctype => rw [convert_leaf hk rfl, convert_leaf (hkind.trans hk) rfl, hlocation]
    | text | comment =>
      have hpayload : Source.payload fields' = Source.payload fields :=
        Source.payload_congr (hkept "value" (by decide) (by decide) (by decide))
      rw [convert_leaf hk rfl, convert_leaf (hkind.trans hk) rfl, hlocation, hpayload]

/-! ## Stripped trees -/

theorem sameRelevant_stripFields (fields : List (String × Value)) :
    SameRelevant fields (stripFields (relevantKeys fields) fields) :=
  fun _ h hchildren hcontent => Source.lookup_stripFields_of_ne h hchildren hcontent fields

/-- A place and its stripped form are converted alike. -/
theorem nodeAt_strip (schema : Schema) (place : Place) :
    nodeAt schema (stripAt place) = nodeAt schema place := by
  -- What is below an element is converted with another schema, so all of them are considered.
  induction place using Place.induction generalizing schema with
  | step place ih =>
    obtain ⟨value, asFragment⟩ := place
    by_cases hv : ∃ fields, value = .obj fields
    · obtain ⟨fields, rfl⟩ := hv
      have hitems : (⟨.obj fields, asFragment⟩ : Place).isParent = true → ∀ schema,
          ∀ item ∈ Source.itemsOf (field fields "children"),
            convert schema (strip item) = convert schema item := by
        intro hp schema item hitem
        refine ih ⟨item, false⟩ (List.mem_append_left _ ?_) schema
        rw [Place.children, if_pos hp]
        exact List.mem_map_of_mem hitem
      cases asFragment with
      | true =>
        exact fragment_stripFields (by decide) (by decide) (hitems rfl schema)
      | false =>
        refine convert_congr (sameRelevant_stripFields fields) ?_ ?_
        · intro hp schema
          rw [Source.field_stripFields_children (Source.children_mem_relevantKeys hp),
            childList_stripChildren (hitems hp schema)]
        · intro ht schema
          have hpart : (⟨Source.orEmpty (field fields "content"), true⟩ : Place) ∈
              (⟨.obj fields, false⟩ : Place).parts := by
            refine List.mem_append_right _ ?_
            rw [Place.content, if_pos ht]
            exact List.mem_singleton_self _
          have hcontent := ih _ hpart schema
          rw [Source.field_stripFields_content (Source.content_mem_relevantKeys ht),
            ← fragment_stripContent_orEmpty, ← fragment_orEmpty schema (field fields "content")]
          exact hcontent
    · rw [not_exists] at hv
      rw [stripAt, Source.strip_of_ne_obj hv, Source.stripContent_of_ne_obj hv, ite_self]

theorem isRoot_strip (tree : Value) : isRoot (strip tree) = isRoot tree := by
  cases tree with
  | obj fields => rw [strip, isRoot, isRoot, Source.kind?_strip]
  | _ => rfl

/-- The fragment of a root is the same, although more than its fragment is kept of a root. -/
theorem fragment_strip_of_isRoot {tree : Value} (h : isRoot tree = true) :
    fragment schema (strip tree) = fragment schema tree := by
  cases tree with
  | obj fields =>
    have hk : Source.kind? fields = some .root := beq_iff_eq.mp h
    refine fragment_stripFields (Source.mem_relevantKeys hk (by decide))
      (Source.mem_relevantKeys hk (by decide)) fun item _ => ?_
    exact nodeAt_strip schema ⟨item, false⟩
  | _ => contradiction

theorem documentTree_stripped (tree space : Value) (asFragment : Bool) :
    documentTree (strip tree) space asFragment = documentTree tree space asFragment := by
  rw [documentTree, documentTree, isRoot_strip]
  cases Schema.ofSpace? space with
  | error e => rfl
  | ok schema =>
    show (if asFragment && isRoot tree then fragment schema (strip tree)
      else convert schema (strip tree)) = if asFragment && isRoot tree then fragment schema tree
      else convert schema tree
    split
    · rename_i h
      exact fragment_strip_of_isRoot (Bool.and_eq_true_iff.mp h).2
    · exact nodeAt_strip schema ⟨tree, false⟩

/-- A tree and its stripped form are converted to the same tree, or fail alike, and so do two trees
with the same stripped form. -/
theorem documentTree_strip (space : Value) (asFragment : Bool) :
    (∀ tree, documentTree (strip tree) space asFragment = documentTree tree space asFragment) ∧
      ∀ tree tree', strip tree = strip tree' →
        documentTree tree space asFragment = documentTree tree' space asFragment := by
  refine ⟨fun tree => documentTree_stripped tree space asFragment, fun tree tree' h => ?_⟩
  rw [← documentTree_stripped tree, h, documentTree_stripped tree']

/-- A root with a text, an element and a template. -/
def tidy : Value :=
  .obj [("type", .str "root"), ("children", .arr
    [.obj [("type", .str "text"), ("value", .str "a")],
     .obj [("type", .str "element"), ("tagName", .str "div")],
     .obj [("type", .str "element"), ("tagName", .str "template"), ("content", .obj
      [("children", .arr [.obj [("type", .str "doctype")]])])]])]

/-- The same tree with fields that do not matter, some of which could not be converted. -/
def cluttered : Value :=
  .obj [("value", .int ⟨0, by decide⟩), ("type", .str "root"), ("children", .arr
    [.obj [("type", .str "text"), ("children", .int ⟨1, by decide⟩), ("value", .str "a")],
     .obj [("type", .str "element"), ("content", .str "b"), ("tagName", .str "div")],
     .obj [("type", .str "element"), ("tagName", .str "template"), ("content", .obj
      [("type", .bool true), ("children", .arr
        [.obj [("type", .str "doctype"), ("name", .str "c")]])])]])]

theorem documentTree_strip_cluttered :
    strip tidy = strip cluttered ∧
      documentTree (strip cluttered) (.str "html") true = documentTree cluttered (.str "html") true ∧
      documentTree tidy (.str "html") true = documentTree cluttered (.str "html") true := by
  have h : strip tidy = strip cluttered := rfl
  exact ⟨h, (documentTree_strip _ _).1 cluttered, (documentTree_strip _ _).2 tidy cluttered h⟩

end MarkupTree.Conversion
