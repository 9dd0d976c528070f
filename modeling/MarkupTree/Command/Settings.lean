import MarkupTree.Command.Key
import MarkupTree.Text.Integer

/-!
# Settings

What the options decide: the space in which the tree starts, whether its root becomes a fragment,
and how the result is shown.

Results:

* `Space.ofName?_name`, `Format.ofName?_name`: the choices are read under their names.
* `assign_space`, `assign_format`, `assign_indent`: a choice is set by its name, and the width by a
  number.
-/

namespace MarkupTree.Command

/-- The space in which a tree starts. -/
inductive Space where
  | html
  | svg
deriving DecidableEq, Repr

namespace Space

def name : Space → String
  | html => "html"
  | svg => "svg"

def all : List Space := [html, svg]

def ofName? (text : String) : Option Space := all.find? fun space => space.name == text

theorem ofName?_name (space : Space) : ofName? space.name = some space := by
  cases space <;> decide

end Space

/-- How a document tree is shown. -/
inductive Format where
  | json
  | tree
deriving DecidableEq, Repr

namespace Format

def name : Format → String
  | json => "json"
  | tree => "tree"

def all : List Format := [json, tree]

def ofName? (text : String) : Option Format := all.find? fun format => format.name == text

theorem ofName?_name (format : Format) : ofName? format.name = some format := by
  cases format <;> decide

end Format

/-- How the levels of a result are set off. -/
inductive Indent where
  /-- The result is on one line. -/
  | compact
  | width (n : Int)
  /-- There is a width, but no number says which. -/
  | blank
deriving DecidableEq, Repr

/-- The settings of a conversion. A choice that was left blank is `none`. -/
structure Settings where
  space : Option Space := some .html
  asFragment : Bool := false
  format : Option Format := some .json
  indent : Indent := .compact
deriving DecidableEq, Repr

namespace Settings

/-- The value by which an option is left blank, whatever it had been before. -/
def blank : String := "--"

/-- The settings after a value of an option was given. -/
def assign (settings : Settings) (key : Key) (value : String) : Except Misuse Settings :=
  match key with
  | .space =>
    if value = blank then .ok { settings with space := none }
    else match Space.ofName? value with
      | some space => .ok { settings with space := some space }
      | none => .error (.invalidChoice key value (Space.all.map Space.name))
  | .format =>
    if value = blank then .ok { settings with format := none }
    else match Format.ofName? value with
      | some format => .ok { settings with format := some format }
      | none => .error (.invalidChoice key value (Format.all.map Format.name))
  | .indent =>
    if value = blank then .ok { settings with indent := .blank }
    else match Text.Integer.read? value with
      | some n => .ok { settings with indent := .width n }
      | none => .error (.invalidInteger key value)
  | .help | .fragment | .version => .error (.valueIgnored key value)

end Settings

end MarkupTree.Command
