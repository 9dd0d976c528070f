import MarkupTree.Proofs.Source.Walk

/-!
# Defects of a source tree

A source tree can be wrong at many places at once. All its defects are listed here in the order in
which they count, from the values of its fields alone.

Results:

* `defects_eq`: the defects of a place in terms of those of its children and its content.
-/

namespace MarkupTree.Source

/-- Whether a value is an object. -/
def isObject : Value → Bool
  | .obj _ => true
  | _ => false

theorem exists_obj_of_isObject {v : Value} (h : isObject v = true) : ∃ fields, v = .obj fields := by
  cases v with
  | obj fields => exact ⟨fields, rfl⟩
  | _ => contradiction

theorem ne_obj_of_isObject {v : Value} (h : isObject v = false) : ∀ fields, v ≠ .obj fields := by
  rintro fields rfl
  contradiction

/-- The defect of a value that may be absent and otherwise should be an object. -/
def memberDefects (v : Value) : List Failure :=
  if v.truthy && !isObject v then [.noSuchMember] else []

theorem memberDefects_obj (fields : List (String × Value)) : memberDefects (.obj fields) = [] := by
  simp [memberDefects, isObject]

/-- The defect of a value that may be absent and otherwise should be a list of children. The
characters of a text and the keys of an object are no source nodes. -/
def listDefects (v : Value) : List Failure :=
  if v.truthy then
    match v with
    | .arr _ => []
    | .str _ => [.unsupportedKind .null]
    | .obj _ => [.unsupportedKind .null]
    | _ => [.wrongType]
  else []

/-- The defect of the position of a source node with these fields. The start and the end only
matter if neither is absent. -/
def positionDefects (fields : List (String × Value)) : List Failure :=
  let position := field fields "position"
  let start := field (fieldsOf position) "start"
  let stop := field (fieldsOf position) "end"
  if position.truthy && !isObject position ||
      start.truthy && stop.truthy && !(isObject start && isObject stop) then
    [.noSuchMember]
  else []

theorem positionDefects_of_not_isObject {fields : List (String × Value)}
    (h : isObject (field fields "position") = false) :
    positionDefects fields =
      if (field fields "position").truthy then [.noSuchMember] else [] := by
  have hf : fieldsOf (field fields "position") = [] :=
    fieldsOf_of_ne_obj (ne_obj_of_isObject h)
  simp only [positionDefects, hf, h]
  cases (field fields "position").truthy <;> rfl

theorem positionDefects_of_obj {fields members : List (String × Value)}
    (h : field fields "position" = .obj members) :
    positionDefects fields =
      if (field members "start").truthy && (field members "end").truthy &&
          !(isObject (field members "start") && isObject (field members "end")) then
        [.noSuchMember]
      else [] := by
  simp [positionDefects, h, isObject]

/-- The defect of an element with these fields that has no tag. -/
def tagDefects (fields : List (String × Value)) : List Failure :=
  if (fields.lookup "tagName").isNone then [.missingKey (.str "tagName")] else []

namespace Place

/-- The defects of a place in the order in which its fields count, if those of its children and its
content are these. -/
def defectsWith (place : Place) (children content : List Failure) : List Failure :=
  let position := positionDefects place.fields
  if place.asFragment then memberDefects place.value ++ children ++ position
  else match Source.kind? place.fields with
    | some .root => memberDefects (field place.fields "data") ++ children ++ position
    | some .element =>
      tagDefects place.fields ++ memberDefects (field place.fields "properties") ++ position ++
        children ++ content
    | some .text => position
    | some .comment => position
    | some .doctype => position
    | none => [.unsupportedKind (field place.fields "type")]

/-- All defects of a place and what is below it, in order. -/
def defects (place : Place) : List Failure :=
  place.defectsWith
    (listDefects (field place.fields "children") ++
      place.children.attach.flatMap fun child => defects child.1)
    (place.content.toList.attach.flatMap fun content => defects content.1)
termination_by sizeOf place.value
decreasing_by
  · exact sizeOf_lt_of_mem_children child.2
  · exact sizeOf_lt_of_mem_content (Option.mem_toList.mp content.2)

theorem defects_eq (place : Place) :
    place.defects =
      place.defectsWith
        (listDefects (field place.fields "children") ++ place.children.flatMap defects)
        (place.content.toList.flatMap defects) := by
  rw [defects, List.flatMap_subtype (g := defects) (fun _ _ => rfl), List.unattach_attach,
    List.flatMap_subtype (g := defects) (fun _ _ => rfl), List.unattach_attach]

end Place

end MarkupTree.Source
