import MarkupTree.Proofs.Conversion.Attributes
import MarkupTree.Proofs.Conversion.InitialSpace
import MarkupTree.Proofs.Conversion.Locality
import MarkupTree.Proofs.Node.Order
import MarkupTree.Proofs.Source.Reordered

/-!
# The order of properties

Two conversions of source trees that are the same up to the order of properties fail alike, or make
trees that are the same up to the order of attributes. These have the same dump, as long as the
properties of each element make different attributes.

Results:

* `perm_of_reordered`: the attributes of one element.
* `resembles_of_reordered`: the node of one place and everything below it.
* `hasDistinctNames_of_mem_preorder`: the names under which the attributes are shown.
* `dump_eq_of_reordered`: conversions and dumps.
-/

namespace MarkupTree.Conversion

open Command (Space)
open Outcome (failure? failure?_eq_some failure?_eq_none)
open Source (field Place)

variable {space : Space} {place place' : Place} {node node' : Node}

/-! ## Places with distinct properties -/

/-- Whether the properties of an element that stands in a space are distinct inside of it. -/
def HasDistinctProperties (space : Space) (place : Place) : Prop :=
  place.kind? = some .element → ∀ properties, field place.fields "properties" = .obj properties →
    Attribute.AreDistinct (spaceAt space place) properties

/-- Whether this is so of all elements below a place that stands in a space, and of itself. -/
def AllHaveDistinctProperties (space : Space) (place : Place) : Prop :=
  ∀ path part, place.at? path = some part →
    HasDistinctProperties (space.insideAll (place.tagsAlong path)) part

theorem AllHaveDistinctProperties.self (h : AllHaveDistinctProperties space place) :
    HasDistinctProperties space place :=
  h [] place rfl

theorem AllHaveDistinctProperties.part (h : AllHaveDistinctProperties space place) {part : Place}
    (hp : part ∈ place.parts) : AllHaveDistinctProperties (spaceAt space place) part := by
  intro path inner hinner
  rw [← Place.map_snd_branches] at hp
  obtain ⟨⟨branch, _⟩, hbranch, rfl⟩ := List.mem_map.mp hp
  have hpart := Place.mem_branches.mp hbranch
  have hat : place.at? (branch :: path) = some inner := by
    rw [Place.at?, hpart, Option.bind_some]
    exact hinner
  have hdistinct := h (branch :: path) inner hat
  rw [Place.tagsAlong, hpart, Option.elim_some, insideAll_tags] at hdistinct
  exact hdistinct

/-! ## One place -/

/-- Reordered properties make reordered attributes. -/
theorem perm_of_reordered (h : place.Reordered place') (hd : HasDistinctProperties space place)
    (hk : place.kind? = some .element) {attrs attrs' : List Attribute}
    (ha : Attribute.ofProperties (spaceAt space place).schema (field place.fields "properties") =
      .ok attrs)
    (ha' : Attribute.ofProperties (spaceAt space place).schema (field place'.fields "properties") =
      .ok attrs') : attrs.Perm attrs' := by
  rcases Source.properties_cases h.fields with he | ⟨ps, ps', hps, hps', hperm⟩
  · rw [he, ha] at ha'
    rw [Except.ok.inj ha']
  · rw [hps, Attribute.ofProperties_obj] at ha
    rw [hps', Attribute.ofProperties_obj] at ha'
    rw [← Except.ok.inj ha, ← Except.ok.inj ha']
    exact Attribute.perm_ofLastWrites (hd hk ps hps) hperm

theorem outlineAt_of_reordered (h : place.Reordered place') :
    outlineAt place' = outlineAt place := by
  have hquirks : Source.isQuirks place'.fields = Source.isQuirks place.fields := by
    rw [Source.isQuirks, Source.isQuirks, h.data]
  rw [outlineAt, outlineAt, h.kind?, hquirks, h.tag, h.payload]

theorem spaceAt_of_reordered (h : place.Reordered place') :
    spaceAt space place' = spaceAt space place := by
  rw [spaceAt, spaceAt, h.kind?, h.tag]

theorem resembles_of_outline {kind kind' : Node.Kind} (h : kind.outline = kind'.outline)
    (helement : ∀ tag attrs uri tag' attrs' uri', kind = .element tag attrs uri →
      kind' = .element tag' attrs' uri' → uri = uri' ∧ Option.Rel List.Perm attrs attrs') :
    kind.Resembles kind' := by
  cases kind with
  | element tag attrs uri =>
    cases kind' with
    | element tag' attrs' uri' =>
      obtain ⟨huri, hattrs⟩ := helement tag attrs uri tag' attrs' uri' rfl rfl
      exact ⟨(Node.Kind.element.inj h).1, huri, hattrs⟩
    | _ => contradiction
  | _ =>
    cases kind' with
    | element => contradiction
    | _ => exact h

/-- The nodes of reordered places have the same kind and data, up to the order of attributes. -/
theorem kind_resembles_of_step (h : place.Reordered place') (hd : HasDistinctProperties space place)
    (hs : Step (spaceAt space place).schema place node)
    (hs' : Step (spaceAt space place).schema place' node') :
    node.label.kind.Resembles node'.label.kind := by
  have houtline : node.label.kind.outline = node'.label.kind.outline := by
    rw [outline_of_describes hs.kind, outline_of_describes hs'.kind, outlineAt_of_reordered h]
  refine resembles_of_outline houtline fun tag attrs uri tag' attrs' uri' hk hk' => ?_
  obtain ⟨⟨list, rfl, ha⟩, huri⟩ := hs.element tag attrs uri hk
  obtain ⟨⟨list', rfl, ha'⟩, huri'⟩ := hs'.element tag' attrs' uri' hk'
  have hdescribes := hs.kind
  rw [hk] at hdescribes
  exact ⟨Except.ok.inj (huri.symm.trans huri'),
    .some (perm_of_reordered h hd hdescribes.1 ha ha')⟩

/-- The attributes of an element with distinct properties are shown under different names. -/
theorem hasDistinctNames_of_step (hd : HasDistinctProperties space place)
    (hs : Step (spaceAt space place).schema place node) : node.HasDistinctNames := by
  intro tag attrs uri hk
  obtain ⟨⟨_, hlist, ha⟩, -⟩ := hs.element tag _ uri hk
  obtain rfl := Option.some.inj hlist
  refine ⟨fun a hmem => (Attribute.isPlaced_of_mem ha hmem).nameText?_isSome, ?_⟩
  have hdescribes := hs.kind
  rw [hk] at hdescribes
  by_cases hv : ∃ ps, field place.fields "properties" = .obj ps
  · obtain ⟨ps, hps⟩ := hv
    rw [hps, Attribute.ofProperties_obj] at ha
    rw [← Except.ok.inj ha]
    exact Attribute.nodup_displayNames (hd hdescribes.1 ps hps)
  · rw [not_exists] at hv
    rw [Attribute.ofProperties_of_ne_obj hv ha]
    exact List.nodup_nil

/-! ## Whole conversions -/

/-- What is made of reordered places is the same up to the order of attributes. -/
theorem resembles_of_reordered (h : place.Reordered place')
    (hd : AllHaveDistinctProperties space place) (hn : nodeAt space.schema place = .ok node)
    (hn' : nodeAt space.schema place' = .ok node') : node.Resembles node' := by
  induction place using Place.induction generalizing space place' node node' with
  | step place ih =>
    have hs := step_of_nodeAt hn
    have hs' := step_of_nodeAt hn'
    rw [schemaAt_schema] at hs hs'
    rw [spaceAt_of_reordered h] at hs'
    have hkind := kind_resembles_of_step h hd.self hs hs'
    have hname : node.label.name = node'.label.name := by
      rw [hs.name, hs'.name]
      rcases hkind.cases with he | ⟨tag, uri, attrs, attrs', hk, hk', -⟩
      · rw [he]
      · rw [hk, hk']
        rfl
    have hparts : ∀ part ∈ place.parts, ∀ part' child child', part.Reordered part' →
        nodeAt (spaceAt space place).schema part = .ok child →
        nodeAt (spaceAt space place).schema part' = .ok child' → child.Resembles child' :=
      fun part hp part' child child' hpart hc hc' => ih part hp hpart (hd.part hp) hc hc'
    have hchildren := forall₂_of_forall₂ h.children hs.children hs'.children fun part hp =>
      hparts part (List.mem_append_left _ hp)
    have hcontent := forall₂_of_forall₂ h.content hs.content hs'.content fun part hp =>
      hparts part (List.mem_append_right _ hp)
    cases node
    cases node'
    exact .mk hkind hname hchildren (rel_of_forall₂_toList hcontent)

/-- The attributes of all elements of a converted tree are shown under different names, if the
properties of all elements of its source are distinct. -/
theorem hasDistinctNames_of_mem_preorder {root : Node} (hd : AllHaveDistinctProperties space place)
    (h : nodeAt space.schema place = .ok root) (hn : node ∈ root.preorder) :
    node.HasDistinctNames := by
  induction place using Place.induction generalizing space root with
  | step place ih =>
    have hs := step_of_nodeAt h
    rw [schemaAt_schema] at hs
    rw [Node.preorder_eq] at hn
    rcases List.mem_cons.mp hn with rfl | hn
    · exact hasDistinctNames_of_step hd.self hs
    · obtain ⟨child, hc, hn⟩ := List.mem_flatMap.mp hn
      obtain ⟨part, hpart, hchild⟩ := exists_of_forall₂_right hs.parts hc
      exact ih part hpart (hd.part hpart) hchild hn

/-- Two conversions of source trees that are the same up to the order of the properties of each
element fail alike, or both succeed with trees that are the same up to the order of the attributes
of each element and that have the same dump, or the same failure to be dumped, with any indentation.
It is enough that, in each element, the names of properties have no blanks and the properties that
are neither null nor NaN make different attributes. -/
theorem dump_eq_of_reordered {tree tree' start : Value} {asFragment : Bool}
    (h : Source.Reordered tree tree')
    (hd : ∀ space : Space, start = .str space.name →
      AllHaveDistinctProperties space (.start tree asFragment)) :
    (∃ e, documentTree tree start asFragment = .error e ∧
      documentTree tree' start asFragment = .error e) ∨
    ∃ root root', documentTree tree start asFragment = .ok root ∧
      documentTree tree' start asFragment = .ok root' ∧ root.Resembles root' ∧
      ∀ indent, root.dump indent = root'.dump indent := by
  by_cases hstart : ∃ space : Space, start = .str space.name
  · obtain ⟨space, rfl⟩ := hstart
    have hplaces := Source.reordered_start h asFragment
    have hfail : failure? (nodeAt space.schema (.start tree' asFragment)) =
        failure? (nodeAt space.schema (.start tree asFragment)) := by
      rw [failure?_nodeAt, failure?_nodeAt, hplaces.defects]
    rw [documentTree_eq tree space.ofSpace?_name, documentTree_eq tree' space.ofSpace?_name]
    cases hn : nodeAt space.schema (.start tree asFragment) with
    | error e =>
      rw [hn] at hfail
      exact .inl ⟨e, rfl, failure?_eq_some.mp hfail⟩
    | ok root =>
      rw [hn] at hfail
      obtain ⟨root', hn'⟩ := failure?_eq_none.mp hfail
      have hresembles := resembles_of_reordered hplaces (hd space rfl) hn hn'
      refine .inr ⟨root, root', rfl, hn', hresembles, Node.dump_eq_of_resembles hresembles ?_⟩
      exact fun n => hasDistinctNames_of_mem_preorder (hd space rfl) hn
  · rw [not_exists] at hstart
    have hspace := ofSpace?_of_ne hstart
    rw [documentTree, documentTree, hspace]
    exact .inl ⟨_, rfl, rfl⟩

theorem areDistinct_labels : Attribute.AreDistinct .html labels where
  blank_not_mem := by decide
  nodup := by
    have hname : ∀ s, (Schema.unknown ("data-" ++ s)).attributeName = "data-" ++ s →
        (Space.html.info ("data-" ++ s)).attributeName = "data-" ++ s := by
      intro s hs
      rw [Space.info_eq_of_find (Space.html.find_data_dash s), hs]
    have hb := hname "b" (by decide)
    have ha := hname "a" (by decide)
    show [(Space.html.info ("data-" ++ "b")).attributeName,
      (Space.html.info ("data-" ++ "a")).attributeName].Nodup
    rw [hb, ha]
    decide

theorem dump_eq_of_reordered_labels :
    Source.Reordered (sourceElement "p" labels) (sourceElement "p" labels.reverse) ∧
      (∀ space : Space, Value.str Space.html.name = .str space.name →
        AllHaveDistinctProperties space (.start (sourceElement "p" labels) false)) ∧
      ∃ root root',
        documentTree (sourceElement "p" labels) (.str Space.html.name) false = .ok root ∧
        documentTree (sourceElement "p" labels.reverse) (.str Space.html.name) false = .ok root' ∧
        root.Resembles root' ∧ ∀ indent, root.dump indent = root'.dump indent := by
  have hreordered :
      Source.Reordered (sourceElement "p" labels) (sourceElement "p" labels.reverse) :=
    .node (.cons (.same _) (.cons (.same _)
      (.cons (.properties rfl (List.reverse_perm labels).symm) .nil)))
  have hdistinct : ∀ space : Space, Value.str Space.html.name = .str space.name →
      AllHaveDistinctProperties space (.start (sourceElement "p" labels) false) := by
    intro space hspace path part hpart
    cases space with
    | svg => exact absurd (Value.str.inj hspace) (by decide)
    | html =>
      cases path with
      | nil =>
        obtain rfl := Option.some.inj hpart
        rintro - properties ⟨⟩
        exact areDistinct_labels
      | cons branch path => cases branch <;> contradiction
  refine ⟨hreordered, hdistinct, ?_⟩
  rcases dump_eq_of_reordered hreordered hdistinct with ⟨e, he, -⟩ | h
  · rw [documentTree_sourceElement .html (by decide : "p" ≠ "template") labels] at he
    contradiction
  · exact h

end MarkupTree.Conversion
