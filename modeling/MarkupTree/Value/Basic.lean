import MarkupTree.Text.Integer

/-!
# Values

The values that trees are read from and shown as: those of JSON, with integers and floating-point
numbers kept apart and objects as lists of fields in the order in which their keys arrived. Integers
are those that have a text, and texts consist of Unicode scalar values: a value with any other
number or text is never read.

Results:

* `isText_iff`: the test for a text is equality with it.
-/

namespace MarkupTree

/-- A JSON value. -/
inductive Value where
  | null
  | bool (b : Bool)
  | int (n : Text.Integer)
  | float (x : Float)
  | str (s : String)
  | arr (items : List Value)
  | obj (fields : List (String × Value))

namespace Value

instance : Inhabited Value := ⟨.null⟩

/-- Whether the value counts as present where an absent one may stand. -/
def truthy : Value → Bool
  | null => false
  | bool b => b
  | int n => n.toInt != 0
  | float x => x != 0
  | str s => s != ""
  | arr items => !items.isEmpty
  | obj fields => !fields.isEmpty

/-- Whether the value is this text. -/
def isText (text : String) : Value → Bool
  | str s => s == text
  | _ => false

/-- Whether the value is a NaN. -/
def isNaN : Value → Bool
  | float x => x.isNaN
  | _ => false

/-- Whether the value is a list or an object. -/
def isContainer : Value → Bool
  | arr _ => true
  | obj _ => true
  | _ => false

/-- A text, or null for its absence. -/
def ofText? : Option String → Value
  | some s => str s
  | none => null

@[simp] theorem truthy_null : truthy null = false := rfl

@[simp] theorem truthy_bool (b : Bool) : truthy (bool b) = b := rfl

@[simp] theorem truthy_str (s : String) : truthy (str s) = (s != "") := rfl

@[simp] theorem isText_iff {text : String} {v : Value} : v.isText text = true ↔ v = str text := by
  cases v <;> simp [isText]

end Value

end MarkupTree
