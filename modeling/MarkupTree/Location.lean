import MarkupTree.Value.Equality
import MarkupTree.Value.Text

/-!
# Source locations

The span of the source from which a node was made. Its six parts are kept as they came.

Results:

* `ofParts?_parts`: a location is determined by its six parts.
* `toValue_injective`: the object that shows a location determines it.
-/

namespace MarkupTree

/-- The start and the end of a span (`SourceCodeLocation`), each with its line, its column and its
offset. -/
structure Location where
  startLine : Value
  startColumn : Value
  startOffset : Value
  endLine : Value
  endColumn : Value
  endOffset : Value

namespace Location

/-- The text that shows a location. -/
def literal (location : Location) : String :=
  "SourceCodeLocation(" ++ location.startLine.display ++ ":" ++ location.startColumn.display ++
    "@" ++ location.startOffset.display ++ "-" ++ location.endLine.display ++ ":" ++
    location.endColumn.display ++ "@" ++ location.endOffset.display ++ ")"

/-- The location as an object (`_location_to_dict`). -/
def toValue (location : Location) : Value :=
  .obj [("startLine", location.startLine), ("startCol", location.startColumn),
    ("startOffset", location.startOffset), ("endLine", location.endLine),
    ("endCol", location.endColumn), ("endOffset", location.endOffset)]

/-- The six parts in order. -/
def parts (location : Location) : List Value :=
  [location.startLine, location.startColumn, location.startOffset, location.endLine,
   location.endColumn, location.endOffset]

/-- The location with these six parts. -/
def ofParts? : List Value → Option Location
  | [startLine, startColumn, startOffset, endLine, endColumn, endOffset] =>
    some { startLine, startColumn, startOffset, endLine, endColumn, endOffset }
  | _ => none

/-- Whether two locations are the same. -/
def same (a b : Location) : Bool := Value.sameItems a.parts b.parts

@[simp] theorem ofParts?_parts (location : Location) :
    ofParts? location.parts = some location := rfl

theorem toValue_injective {a b : Location} (h : a.toValue = b.toValue) : a = b := by
  cases a
  cases b
  simpa [toValue] using h

end Location

end MarkupTree
