import MarkupTree.Failure
import MarkupTree.Location

/-!
# Source nodes

A source tree is a value. Its nodes are objects whose `type` says what they are; the other fields
are read when they are needed, and any of them may be missing or of an unexpected type.

Results:

* `member_obj`, `member_of_ne_obj`: members can be asked of objects only.
-/

namespace MarkupTree.Source

/-- What a source node describes (`_HANDLERS`). -/
inductive Kind where
  | root
  | element
  | text
  | comment
  | doctype
deriving DecidableEq, Repr

/-- The kind with this name. -/
def Kind.ofName? (name : String) : Option Kind :=
  [("root", root), ("element", element), ("text", text), ("comment", comment),
   ("doctype", doctype)].lookup name

/-- A field, which is null if it is missing. -/
def field (fields : List (String × Value)) (key : String) : Value :=
  (fields.lookup key).getD .null

/-- A member of a value that should be an object. -/
def member (v : Value) (key : String) : Except Failure Value :=
  match v with
  | .obj fields => .ok (field fields key)
  | _ => .error .noSuchMember

/-- The kind of a source node with these fields (`_kind`). -/
def kind? (fields : List (String × Value)) : Option Kind :=
  match field fields "type" with
  | .str name => Kind.ofName? name
  | _ => none

/-- The mode of the document that a root with these fields describes. -/
def mode (fields : List (String × Value)) : Except Failure Value := do
  let data := field fields "data"
  if !data.truthy then return .str "no-quirks"
  let quirks ← member data "quirksMode"
  return .str (if quirks.truthy then "quirks" else "no-quirks")

/-- The text of a text or comment with these fields; it need not be a string. -/
def payload (fields : List (String × Value)) : Value := (fields.lookup "value").getD (.str "")

/-- The location of a source node with these fields (`_patch`), if its position has a start and an
end. -/
def location (fields : List (String × Value)) : Except Failure (Option Location) := do
  let position := field fields "position"
  if !position.truthy then return none
  let start ← member position "start"
  let stop ← member position "end"
  if !(start.truthy && stop.truthy) then return none
  let startLine ← member start "line"
  let startColumn ← member start "column"
  let startOffset ← member start "offset"
  let endLine ← member stop "line"
  let endColumn ← member stop "column"
  let endOffset ← member stop "offset"
  return some { startLine, startColumn, startOffset, endLine, endColumn, endOffset }

@[simp] theorem member_obj (fields : List (String × Value)) (key : String) :
    member (.obj fields) key = .ok (field fields key) := rfl

theorem member_of_ne_obj {v : Value} (h : ∀ fields, v ≠ .obj fields) (key : String) :
    member v key = .error .noSuchMember := by
  cases v <;> first | rfl | exact absurd rfl (h _)

end MarkupTree.Source
