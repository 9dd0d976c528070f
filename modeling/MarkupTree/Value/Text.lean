import MarkupTree.Decimal.Layout
import MarkupTree.Text.Quoted
import MarkupTree.Value.Basic

/-!
# The text of a value

A value is written in three ways. Its *literal* text quotes strings and shows the structure of
lists and objects. Its *display* text is the string itself, and the literal of anything else. Its
*attribute* text is the display text, but a truth value that stands alone is in lower case.

Results:

* `display_str`, `display_eq_literal`: the display text in terms of the literal.
* `attributeText_eq_display`: attribute text differs from it for truth values only.
-/

namespace MarkupTree.Value

/-- Floating-point values are positional from `10 ^ -4` up to below `10 ^ 16`, and otherwise have a
signed exponent of at least two digits. -/
def floatLayout : Decimal.Layout where
  plainFrom := -4
  plainBelow := 16
  exponentWidth := 2
  nan := "nan"
  infinity := "inf"

mutual

/-- The text that shows what kind of value it is. -/
def literal : Value → String
  | null => "None"
  | bool b => if b then "True" else "False"
  | int n => n.repr
  | float x => String.ofList (floatLayout.render x)
  | str s => Text.Quoted.quote s
  | arr items => "[" ++ ", ".intercalate (literals items) ++ "]"
  | obj fields => "\x7b" ++ ", ".intercalate (memberLiterals fields) ++ "\x7d"

/-- The literals of a list of values. -/
def literals : List Value → List String
  | [] => []
  | v :: rest => literal v :: literals rest

/-- The literals of a list of fields. -/
def memberLiterals : List (String × Value) → List String
  | [] => []
  | (k, v) :: rest => (Text.Quoted.quote k ++ ": " ++ literal v) :: memberLiterals rest

end

/-- The text as which a value appears in running text. -/
def display : Value → String
  | str s => s
  | v => literal v

/-- The text as which a value appears in an attribute (`_stringify`). -/
def attributeText : Value → String
  | bool b => if b then "true" else "false"
  | v => display v

@[simp] theorem display_str (s : String) : display (str s) = s := rfl

theorem display_eq_literal {v : Value} (h : ∀ s, v ≠ str s) : display v = literal v := by
  cases v <;> first | rfl | exact absurd rfl (h _)

@[simp] theorem attributeText_str (s : String) : attributeText (str s) = s := rfl

theorem attributeText_eq_display {v : Value} (h : ∀ b, v ≠ bool b) :
    attributeText v = display v := by
  cases v <;> first | rfl | exact absurd rfl (h _)

@[simp] theorem literals_eq_map (items : List Value) : literals items = items.map literal := by
  induction items with
  | nil => rfl
  | cons v rest ih => simp [literals, ih]

end MarkupTree.Value
