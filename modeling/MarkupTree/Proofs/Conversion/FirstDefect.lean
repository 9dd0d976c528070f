import MarkupTree.Proofs.Attribute.Pipeline
import MarkupTree.Proofs.Conversion.Made
import MarkupTree.Proofs.Source.Defects

/-!
# The first defect of a source tree

A conversion fails if the source tree has a defect, and its failure is the first of them.

Results:

* `failure?_location`, `failure?_mode`, `failure?_ofProperties`, `failure?_childList`: when a field
  of a source node cannot be read.
* `failure?_nodeAt`: the failure at one place and below is the first of its defects.
* `documentTree_first_defect`: a conversion succeeds if there are no defects, and otherwise fails
  with the first of them.
-/

namespace MarkupTree.Conversion

open Command (Space)
open Outcome
open Source
  (field isObject memberDefects listDefects positionDefects tagDefects exists_obj_of_isObject
    ne_obj_of_isObject Place)

/-! ## Fields -/

theorem failure?_member (v : Value) (key : String) :
    failure? (Source.member v key) = if isObject v then none else some .noSuchMember := by
  cases v <;> rfl

theorem failure?_mode (fields : List (String × Value)) :
    failure? (Source.mode fields) = (memberDefects (field fields "data")).head? := by
  simp only [Source.mode, memberDefects]
  cases (field fields "data").truthy with
  | false => rfl
  | true =>
    simp only [Bool.not_true, Bool.false_eq_true, if_false, Bool.true_and, failure?_bind_pure,
      failure?_member]
    cases isObject (field fields "data") <;> rfl

theorem failure?_location (fields : List (String × Value)) :
    failure? (Source.location fields) = (positionDefects fields).head? := by
  cases ho : isObject (field fields "position") with
  | false =>
    rw [Source.positionDefects_of_not_isObject ho]
    simp only [Source.location, Source.member_of_ne_obj (ne_obj_of_isObject ho)]
    cases (field fields "position").truthy <;> rfl
  | true =>
    obtain ⟨members, hm⟩ := exists_obj_of_isObject ho
    rw [Source.positionDefects_of_obj hm]
    simp only [Source.location, hm, Source.member_obj]
    cases members with
    | nil => rfl
    | cons member rest =>
      generalize field (member :: rest) "start" = start
      generalize field (member :: rest) "end" = stop
      show failure? (if !(start.truthy && stop.truthy) then _ else _) = _
      cases start.truthy && stop.truthy with
      | false => rfl
      | true =>
        cases hs : isObject start with
        | false =>
          rw [Source.member_of_ne_obj (ne_obj_of_isObject hs)]
          rfl
        | true =>
          obtain ⟨_, rfl⟩ := exists_obj_of_isObject hs
          cases hp : isObject stop with
          | false =>
            rw [Source.member_of_ne_obj (ne_obj_of_isObject hp)]
            rfl
          | true =>
            obtain ⟨_, rfl⟩ := exists_obj_of_isObject hp
            rfl

theorem failure?_ofProperties (space : Space) (properties : Value) :
    failure? (Attribute.ofProperties space.schema properties) =
      (memberDefects properties).head? := by
  rw [memberDefects]
  cases ho : isObject properties with
  | true =>
    obtain ⟨fields, rfl⟩ := exists_obj_of_isObject ho
    rw [Attribute.ofProperties_obj, Bool.not_true, Bool.and_false]
    rfl
  | false =>
    have hr : Attribute.resolve space.schema properties =
        if properties.truthy then .error .noSuchMember else .ok [] := by
      cases properties with
      | obj fields => contradiction
      | _ => rfl
    rw [Attribute.ofProperties, hr]
    cases properties.truthy <;> rfl

/-! ## Children and contents -/

/-- Nothing after the first failure among the items of a list matters. -/
theorem failure?_convertAll {schema : Schema} {items : List Value}
    (h : ∀ v ∈ items, failure? (convert schema v) = (⟨v, false⟩ : Place).defects.head?) :
    failure? (convertAll schema items) =
      ((items.map fun v => (⟨v, false⟩ : Place)).flatMap Place.defects).head? := by
  induction items with
  | nil => rfl
  | cons v rest ih =>
    rw [convertAll, List.map_cons, List.flatMap_cons]
    refine failure?_bind (h v List.mem_cons_self) ?_
    intro node _
    rw [failure?_bind_pure]
    exact ih fun w hw => h w (List.mem_cons_of_mem v hw)

theorem failure?_childList {schema : Schema} {v : Value}
    (h : ∀ item ∈ Source.itemsOf v,
      failure? (convert schema item) = (⟨item, false⟩ : Place).defects.head?) :
    failure? (childList schema v) =
      (listDefects v ++
        ((Source.itemsOf v).map fun v => (⟨v, false⟩ : Place)).flatMap Place.defects).head? := by
  by_cases hv : ∃ items, v = .arr items
  · obtain ⟨items, rfl⟩ := hv
    have hd : listDefects (.arr items) = [] := by
      rw [listDefects]
      exact ite_self _
    rw [hd]
    exact failure?_convertAll h
  · rw [not_exists] at hv
    have hd : listDefects v = if v.truthy then [unlistable v] else [] := by
      cases v with
      | arr items => exact absurd rfl (hv items)
      | _ => rfl
    rw [childList_of_ne_arr schema hv, Source.itemsOf_of_ne_arr hv, List.map_nil, List.flatMap_nil,
      List.append_nil, hd]
    cases v.truthy <;> rfl

/-- The children of a place fail as the places below it do. -/
theorem failure?_children {schema : Schema} {place : Place} (hp : place.isParent = true)
    (h : ∀ child ∈ place.children, failure? (nodeAt schema child) = child.defects.head?) :
    failure? (childList schema (field place.fields "children")) =
      (listDefects (field place.fields "children") ++
        place.children.flatMap Place.defects).head? := by
  rw [Place.children, if_pos hp] at h ⊢
  apply failure?_childList
  intro item hi
  exact h ⟨item, false⟩ (List.mem_map_of_mem hi)

theorem failure?_contentOf {schema : Schema} {place : Place} {tag : Value}
    (hk : place.kind? = some .element) (ht : field place.fields "tagName" = tag)
    (h : ∀ content ∈ place.content, failure? (nodeAt schema content) = content.defects.head?) :
    failure? (contentOf schema tag (field place.fields "content")) =
      (place.content.toList.flatMap Place.defects).head? := by
  rw [Place.content, Place.isTemplate, hk, ht] at h ⊢
  rw [contentOf]
  cases htemplate : tag.isText "template" with
  | false => rfl
  | true =>
    rw [htemplate] at h
    have hc := h _ rfl
    rw [nodeAt, if_pos rfl, fragment_orEmpty] at hc
    simp only [if_true, map_eq_pure_bind, failure?_bind_pure]
    simpa using hc

/-! ## Places -/

variable {schema : Schema} {fields : List (String × Value)}

theorem failure?_fragment {v : Value}
    (h : ∀ child ∈ (⟨v, true⟩ : Place).children,
      failure? (nodeAt schema child) = child.defects.head?) :
    failure? (fragment schema v) = (⟨v, true⟩ : Place).defects.head? := by
  rw [Place.defects_eq]
  cases ho : isObject v with
  | false =>
    have hv := ne_obj_of_isObject ho
    have hf : (⟨v, true⟩ : Place).fields = [] := Source.fieldsOf_of_ne_obj hv
    rw [fragment_of_ne_obj hv, Place.defectsWith, Place.children, Place.content, hf, memberDefects,
      ho]
    cases v.truthy <;> rfl
  | true =>
    obtain ⟨fields, rfl⟩ := exists_obj_of_isObject ho
    rw [fragment_obj]
    show _ = (memberDefects (.obj fields) ++ _ ++ _).head?
    rw [Source.memberDefects_obj, List.nil_append]
    refine failure?_bind (failure?_children rfl h) ?_
    intro children _
    rw [failure?_bind_pure]
    exact failure?_location fields

theorem isParent_of_kind? {kind : Source.Kind} (hk : Source.kind? fields = some kind)
    (h : kind = .root ∨ kind = .element) : (⟨.obj fields, false⟩ : Place).isParent = true := by
  have hplace : (⟨.obj fields, false⟩ : Place).kind? = some kind := hk
  rw [Place.isParent, hplace]
  rcases h with rfl | rfl <;> rfl

theorem failure?_root (hk : Source.kind? fields = some .root)
    (h : ∀ child ∈ (⟨.obj fields, false⟩ : Place).children,
      failure? (nodeAt schema child) = child.defects.head?) :
    failure? (convert schema (.obj fields)) = (⟨.obj fields, false⟩ : Place).defects.head? := by
  rw [convert_root hk, Place.defects_eq]
  simp only [Place.defectsWith, Place.fields, Source.fieldsOf_obj, hk, Bool.false_eq_true, if_false,
    List.append_assoc]
  refine failure?_bind (failure?_mode fields) ?_
  intro mode _
  rw [← List.append_assoc]
  refine failure?_bind (failure?_children (isParent_of_kind? hk (Or.inl rfl)) h) ?_
  intro children _
  rw [failure?_bind_pure]
  exact failure?_location fields

theorem failure?_element {space : Space} (hk : Source.kind? fields = some .element)
    (h : ∀ part ∈ (⟨.obj fields, false⟩ : Place).parts, ∀ space : Space,
      failure? (nodeAt space.schema part) = part.defects.head?) :
    failure? (convert space.schema (.obj fields)) =
      (⟨.obj fields, false⟩ : Place).defects.head? := by
  rw [Place.defects_eq]
  simp only [Place.defectsWith, Place.fields, Source.fieldsOf_obj, hk, Bool.false_eq_true, if_false]
  cases ht : fields.lookup "tagName" with
  | none =>
    have htag : tagDefects fields = [.missingKey (.str "tagName")] := by simp [tagDefects, ht]
    rw [convert_element_of_no_tag hk ht, htag]
    rfl
  | some tag =>
    have hfield : field fields "tagName" = tag := by rw [field, ht, Option.getD_some]
    have hchildren := fun child hc => h child (List.mem_append_left _ hc) (space.inside tag)
    have hcontent := fun content hc =>
      h content (List.mem_append_right _ (Option.mem_toList.mpr hc)) (space.inside tag)
    have htag : tagDefects fields = [] := by simp [tagDefects, ht]
    rw [convert_element hk ht, schemaFor_schema, elementNamespace_schema, htag, List.nil_append,
      List.append_assoc, List.append_assoc]
    -- The namespace is always known, so that the position is the next that can fail.
    refine failure?_bind (failure?_ofProperties _ _) ?_
    intro attrs _
    rw [ok_bind]
    refine failure?_bind (failure?_location fields) ?_
    intro location _
    refine failure?_bind (failure?_children (isParent_of_kind? hk (Or.inr rfl)) hchildren) ?_
    intro children _
    rw [failure?_bind_pure]
    have hplace : (⟨.obj fields, false⟩ : Place).kind? = some .element := hk
    exact failure?_contentOf hplace hfield hcontent

/-- The failure at a place and below it is the first of its defects. -/
theorem failure?_nodeAt (space : Space) (place : Place) :
    failure? (nodeAt space.schema place) = place.defects.head? := by
  induction place using Place.induction generalizing space with
  | step place ih =>
    obtain ⟨v, asFragment⟩ := place
    cases asFragment with
    | true => exact failure?_fragment fun child hc => ih child (List.mem_append_left _ hc) space
    | false =>
      show failure? (convert space.schema v) = _
      cases ho : isObject v with
      | false =>
        have hv := ne_obj_of_isObject ho
        have hf : (⟨v, false⟩ : Place).fields = [] := Source.fieldsOf_of_ne_obj hv
        rw [convert_of_ne_obj hv, Place.defects_eq, Place.defectsWith, hf]
        rfl
      | true =>
        obtain ⟨fields, rfl⟩ := exists_obj_of_isObject ho
        cases hk : Source.kind? fields with
        | none =>
          rw [convert_of_no_kind hk, Place.defects_eq]
          simp only [Place.defectsWith, Place.fields, Source.fieldsOf_obj, hk]
          rfl
        | some kind =>
          cases kind with
          | root => exact failure?_root hk fun child hc => ih child (List.mem_append_left _ hc) space
          | element => exact failure?_element hk ih
          | _ =>
            rw [convert_leaf hk rfl, failure?_bind_pure, failure?_location, Place.defects_eq]
            simp only [Place.defectsWith, Place.fields, Source.fieldsOf_obj, hk]
            rfl

/-- A conversion that starts in one of the two spaces succeeds if the source tree has no defect, and
otherwise fails with the first of its defects. -/
theorem documentTree_first_defect (tree : Value) (space : Space) (asFragment : Bool) :
    match (Place.start tree asFragment).defects with
    | [] => ∃ node, documentTree tree (.str space.name) asFragment = .ok node
    | e :: _ => documentTree tree (.str space.name) asFragment = .error e := by
  have h := failure?_nodeAt space (.start tree asFragment)
  rw [← documentTree_eq tree space.ofSpace?_name] at h
  cases hd : (Place.start tree asFragment).defects with
  | nil =>
    rw [hd, List.head?_nil] at h
    exact failure?_eq_none.mp h
  | cons e rest =>
    rw [hd, List.head?_cons] at h
    exact failure?_eq_some.mp h

end MarkupTree.Conversion
