import MarkupTree.Proofs.Path
import MarkupTree.Proofs.Source.Fields

/-!
# Paths in a source tree

A path leads from a place of a source tree to a place below it. What stands at the end of a path can
be replaced by another value; only the lists of children and the contents on the way change.

Results:

* `at?_replace`: a new value stands where the old one stood.
* `start_replace`: a replacement below the top changes nothing in how a tree is entered.
* `at?_of_mem_visits`: a walk that keeps track of paths meets each place at the end of its path.
-/

namespace MarkupTree.Source.Place

/-! ## Places at the ends of paths -/

/-- The place that a branch leads to. -/
def part? (place : Place) (branch : Branch) : Option Place :=
  branch.get? place.children place.content

/-- The place that a path leads to. -/
def at? (place : Place) : Path → Option Place
  | [] => some place
  | branch :: path => (place.part? branch).bind (at? · path)

/-- The branches from a place, with the places that they lead to. -/
def branches (place : Place) : List (Branch × Place) := Branch.all place.children place.content

theorem map_snd_branches (place : Place) : place.branches.map Prod.snd = place.parts :=
  Branch.map_snd_all _ _

theorem mem_branches {place part : Place} {branch : Branch} :
    (branch, part) ∈ place.branches ↔ place.part? branch = some part :=
  Branch.mem_all

theorem sizeOf_lt_of_mem_branches {place : Place} {p : Branch × Place} (h : p ∈ place.branches) :
    sizeOf p.2.value < sizeOf place.value := by
  apply sizeOf_lt_of_mem_parts
  rw [← map_snd_branches]
  exact List.mem_map_of_mem h

/-- The tag of an element. -/
def tag? (place : Place) : Option Value :=
  if place.kind? = some .element then some (field place.fields "tagName") else none

/-- The tags of the elements that a path leads out of, from the top down. -/
def tagsAlong (place : Place) : Path → List Value
  | [] => []
  | branch :: path =>
    place.tag?.toList ++ (place.part? branch).elim [] (tagsAlong · path)

/-- The value at a place with the value at the end of a path replaced by another. -/
def replace (place : Place) : Path → Value → Value
  | [], u => u
  | .child i :: path, u =>
    .obj (Fields.set "children"
      (.arr ((itemsOf (field place.fields "children")).modify i fun v => replace ⟨v, false⟩ path u))
      place.fields)
  | .content :: path, u =>
    .obj (Fields.set "content" (replace ⟨orEmpty (field place.fields "content"), true⟩ path u)
      place.fields)

theorem part?_child {place part : Place} {i : Nat} (h : place.part? (.child i) = some part) :
    place.isParent = true ∧ ∃ items v, field place.fields "children" = .arr items ∧
      items[i]? = some v ∧ part = ⟨v, false⟩ := by
  change place.children[i]? = some part at h
  rw [children] at h
  split at h
  · rename_i hparent
    rw [List.getElem?_map, Option.map_eq_some_iff] at h
    obtain ⟨v, hv, rfl⟩ := h
    refine ⟨hparent, ?_⟩
    cases hc : field place.fields "children" with
    | arr items =>
      rw [hc] at hv
      exact ⟨items, v, rfl, hv, rfl⟩
    | _ =>
      rw [hc] at hv
      contradiction
  · contradiction

theorem part?_content {place part : Place} (h : place.part? .content = some part) :
    place.isTemplate = true ∧ part = ⟨orEmpty (field place.fields "content"), true⟩ := by
  change place.content = some part at h
  rw [content] at h
  split at h
  · rename_i htemplate
    exact ⟨htemplate, (Option.some.inj h).symm⟩
  · contradiction

theorem isParent_of_isTemplate {place : Place} (h : place.isTemplate = true) :
    place.isParent = true := by
  rw [isTemplate, Bool.and_eq_true] at h
  rw [isParent, h.1, Bool.or_true]

/-- Only what a last branch to a content leads to is read as a fragment. -/
theorem asFragment_of_at? {place part : Place} {path : Path} (hne : path ≠ [])
    (h : place.at? path = some part) : part.asFragment = (path.getLast? == some .content) := by
  induction path generalizing place with
  | nil => exact absurd rfl hne
  | cons branch path ih =>
    rw [at?, Option.bind_eq_some_iff] at h
    obtain ⟨next, hnext, h⟩ := h
    cases path with
    | nil =>
      obtain rfl := Option.some.inj h
      cases branch with
      | child i =>
        obtain ⟨-, _, _, -, -, rfl⟩ := part?_child hnext
        rfl
      | content =>
        obtain ⟨-, rfl⟩ := part?_content hnext
        rfl
    | cons branch' path =>
      rw [List.getLast?_cons_cons]
      exact ih (List.cons_ne_nil _ _) h

/-- A part is only found in an object. -/
theorem value_eq_obj_of_part? {place part : Place} {branch : Branch}
    (h : place.part? branch = some part) : place.value = .obj place.fields := by
  apply value_eq_obj
  intro hf
  cases branch with
  | child i =>
    obtain ⟨-, items, _, hc, -⟩ := part?_child h
    rw [hf] at hc
    contradiction
  | content =>
    obtain ⟨ht, -⟩ := part?_content h
    rw [isTemplate, Bool.and_eq_true, beq_iff_eq] at ht
    exact fields_ne_nil_of_kind? ht.1 hf

theorem truthy_replace {u : Value} (hu : u.truthy = true) (place : Place) (path : Path) :
    (place.replace path u).truthy = true := by
  cases path with
  | nil => exact hu
  | cons branch path => cases branch <;> exact truthy_obj_set _ _

theorem part?_replace {fields : List (String × Value)} {asFragment : Bool} {part : Place}
    {branch : Branch} (h : (⟨.obj fields, asFragment⟩ : Place).part? branch = some part)
    (path : Path) {u : Value} (hu : u.truthy = true) :
    part? ⟨replace ⟨.obj fields, asFragment⟩ (branch :: path) u, asFragment⟩ branch =
      some ⟨part.replace path u, part.asFragment⟩ := by
  cases branch with
  | child i =>
    obtain ⟨hp, items, v, hitems, hv, rfl⟩ := part?_child h
    rw [Place.fields, fieldsOf_obj] at hitems
    have hp' := (sameNode_set_children fields (.arr (items.modify i fun v =>
      replace ⟨v, false⟩ path u))).isParent asFragment
    rw [part?, Branch.get?, replace, Place.fields, fieldsOf_obj, hitems, itemsOf, children, hp', hp,
      if_pos rfl, Place.fields, fieldsOf_obj, field_set_self, itemsOf, List.getElem?_map,
      List.getElem?_modify_eq, hv]
    rfl
  | content =>
    obtain ⟨ht, rfl⟩ := part?_content h
    have ht' := (sameNode_set_content fields
      (replace ⟨orEmpty (field fields "content"), true⟩ path u)).isTemplate asFragment
    rw [part?, Branch.get?, replace, content, Place.fields, fieldsOf_obj, ht', ht, if_pos rfl,
      Place.fields, fieldsOf_obj, field_set_self, orEmpty, if_pos (truthy_replace hu _ path)]

/-- The new value stands where the old one stood. -/
theorem at?_replace {place old : Place} {path : Path} (h : place.at? path = some old) {u : Value}
    (hu : u.truthy = true) :
    at? ⟨place.replace path u, place.asFragment⟩ path = some ⟨u, old.asFragment⟩ := by
  induction path generalizing place with
  | nil =>
    obtain rfl := Option.some.inj h
    rfl
  | cons branch path ih =>
    rw [at?, Option.bind_eq_some_iff] at h
    obtain ⟨part, hpart, h⟩ := h
    obtain ⟨value, asFragment⟩ := place
    have hvalue := value_eq_obj_of_part? hpart
    cases value with
    | obj fields => rw [at?, part?_replace hpart path hu, Option.bind_some, ih h]
    | _ => contradiction

/-- A replacement below a place changes nothing in how the tree is entered. -/
theorem start_replace {path : Path} (hne : path ≠ []) (tree u : Value) (asFragment : Bool) :
    start ((start tree asFragment).replace path u) asFragment =
      ⟨(start tree asFragment).replace path u, (start tree asFragment).asFragment⟩ := by
  cases path with
  | nil => exact absurd rfl hne
  | cons branch path =>
    have hsame : SameNode (fieldsOf tree)
        (fieldsOf ((start tree asFragment).replace (branch :: path) u)) := by
      cases branch with
      | child i => exact sameNode_set_children _ _
      | content => exact sameNode_set_content _ _
    rw [start, hsame.kind?]
    rfl

/-! ## Walks that keep track of paths -/

/-- A place that a walk meets, and the path that leads to it from the start of the walk. -/
structure Visit where
  path : Path
  place : Place

/-- The visit seen from above a branch. -/
def Visit.below (branch : Branch) (visit : Visit) : Visit := ⟨branch :: visit.path, visit.place⟩

/-- The places that a walk meets, in order, with their paths. -/
def visits (place : Place) : List Visit :=
  ⟨[], place⟩ :: place.branches.attach.flatMap fun p => (visits p.1.2).map (Visit.below p.1.1)
termination_by sizeOf place.value
decreasing_by exact sizeOf_lt_of_mem_branches p.2

theorem visits_eq (place : Place) :
    place.visits =
      ⟨[], place⟩ :: place.branches.flatMap fun p => p.2.visits.map (Visit.below p.1) := by
  rw [visits, List.flatMap_subtype (g := fun p => p.2.visits.map (Visit.below p.1))
    (fun _ _ => rfl), List.unattach_attach]

/-- Each place that a walk meets is the one that its path leads to. -/
theorem at?_of_mem_visits {place : Place} {visit : Visit} (h : visit ∈ place.visits) :
    place.at? visit.path = some visit.place := by
  induction place using Place.induction generalizing visit with
  | step place ih =>
    rw [visits_eq, List.mem_cons, List.mem_flatMap] at h
    rcases h with rfl | ⟨⟨branch, part⟩, hp, h⟩
    · rfl
    · obtain ⟨inner, hinner, rfl⟩ := List.mem_map.mp h
      have hpart : part ∈ place.parts := by
        rw [← map_snd_branches]
        exact List.mem_map_of_mem hp
      show (place.part? branch).bind (at? · inner.path) = some inner.place
      rw [mem_branches.mp hp, Option.bind_some, ih part hpart hinner]

end MarkupTree.Source.Place
