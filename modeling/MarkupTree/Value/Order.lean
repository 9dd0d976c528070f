import MarkupTree.Failure
import MarkupTree.Sorting.Adaptive
import MarkupTree.Value.Equality

/-!
# When a value comes before another

Numbers come in the order of their size, texts in the order of their code points and lists in the
order of their first difference. No other two values can be compared.

Results:

* `before_str`: the order of texts.
* `sortOn_nil`, `sortOn_singleton`: nothing is compared in a list of at most one item.
-/

namespace MarkupTree.Value

mutual

/-- Whether a value comes before another. -/
def before : Value → Value → Except Failure Bool
  | str s, w => match w with
    | str t => .ok (s < t)
    | _ => .error .wrongType
  | arr items, w => match w with
    | arr others => itemsBefore items others
    | _ => .error .wrongType
  | null, _ => .error .wrongType
  | obj _, _ => .error .wrongType
  | bool b, w => numberBefore (bool b) w
  | int n, w => numberBefore (int n) w
  | float x, w => numberBefore (float x) w
where
  /-- Whether a number comes before another. -/
  numberBefore (v w : Value) : Except Failure Bool :=
    match v.numeric?, w.numeric? with
    | some a, some b => .ok (a.compare? b == some .lt)
    | _, _ => .error .wrongType

/-- Whether a list comes before another: at the first difference, or by being shorter. -/
def itemsBefore : List Value → List Value → Except Failure Bool
  | [], others => .ok (!others.isEmpty)
  | _ :: _, [] => .ok false
  | v :: rest, w :: others => if v.same w then itemsBefore rest others else before v w

end

@[simp] theorem before_str (s t : String) : before (str s) (str t) = .ok (decide (s < t)) := rfl

/-- Sorts a list by a key; items whose keys do not come before one another keep their order. -/
def sortOn {α : Type} (key : α → Value) (items : List α) : Except Failure (List α) :=
  Sorting.sort (fun x y => before (key x) (key y)) items

@[simp] theorem sortOn_nil {α : Type} (key : α → Value) : sortOn key [] = .ok [] :=
  Sorting.sort_nil _

@[simp] theorem sortOn_singleton {α : Type} (key : α → Value) (x : α) :
    sortOn key [x] = .ok [x] :=
  Sorting.sort_singleton _ x

end MarkupTree.Value
