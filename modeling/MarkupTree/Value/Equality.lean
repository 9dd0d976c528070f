import MarkupTree.Decimal.Binary
import MarkupTree.Value.Basic

/-!
# When two values are the same

Values of different kinds differ, except that truth values count as the integers 0 and 1 and that
integers and floating-point values are compared as exact numbers. A NaN differs from itself. The
order of the fields of an object does not matter.

Results:

* `same_str`, `same_null`: texts are compared as texts, and null is the same as null only.
-/

namespace MarkupTree.Value

/-- The value as a number, with a truth value as 0 or 1. -/
inductive Numeric where
  | int (n : Int)
  | float (x : Float)

/-- The number that a value stands for. -/
def numeric? : Value → Option Numeric
  | bool b => some (.int (if b then 1 else 0))
  | int n => some (.int n.toInt)
  | float x => some (.float x)
  | _ => none

/-- The exact comparison of two numbers, or `none` if one of them is a NaN. -/
def Numeric.compare? : Numeric → Numeric → Option Ordering
  | .int m, .int n => some (compare m n)
  | .int n, .float x => Decimal.compareInt? n x
  | .float x, .int n => (Decimal.compareInt? n x).map Ordering.swap
  | .float x, .float y =>
    if x < y then some .lt else if x == y then some .eq else if y < x then some .gt else none

/-- Whether two values are the same number. -/
def sameNumber (v w : Value) : Bool :=
  match v.numeric?, w.numeric? with
  | some a, some b => a.compare? b == some .eq
  | _, _ => false

mutual

/-- Whether two values are the same. -/
def same : Value → Value → Bool
  | null, w => match w with
    | null => true
    | _ => false
  | str s, w => w.isText s
  | arr items, w => match w with
    | arr others => sameItems items others
    | _ => false
  | obj fields, w => match w with
    | obj others => fields.length == others.length && sameFields fields others
    | _ => false
  | bool b, w => sameNumber (bool b) w
  | int n, w => sameNumber (int n) w
  | float x, w => sameNumber (float x) w

/-- Whether two lists hold the same values in the same places. -/
def sameItems : List Value → List Value → Bool
  | [], [] => true
  | v :: rest, w :: others => same v w && sameItems rest others
  | _, _ => false

/-- Whether each field is the same as the field of its key in the other list. -/
def sameFields : List (String × Value) → List (String × Value) → Bool
  | [], _ => true
  | (k, v) :: rest, others =>
    (match others.lookup k with
      | some w => same v w
      | none => false) && sameFields rest others

end

@[simp] theorem same_str (s t : String) : same (str s) (str t) = (t == s) := rfl

@[simp] theorem same_null (w : Value) : same null w = true ↔ w = null := by
  cases w <;> simp [same]

end MarkupTree.Value
