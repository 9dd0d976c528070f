import MarkupTree.Command.Folder
import MarkupTree.Command.Invocation
import MarkupTree.Command.Usage
import MarkupTree.Conversion
import MarkupTree.Json.Reader
import MarkupTree.Node.Dump
import MarkupTree.Node.Data

/-!
# Running the command

A run reads one tree, converts it and shows the result. It writes its result whole or not at all.
-/

namespace MarkupTree.Command

/-- How a run ends. -/
inductive Ending where
  | exit (code : Nat)
  /-- A failure that the command has no words of its own for. -/
  | failed (failure : Failure)

/-- What a run writes, and how it ends. -/
structure Outcome where
  stdout : String
  stderr : String
  ending : Ending

namespace Outcome

/-- The outcome of a run that was completed. -/
def completed (text : String) : Outcome := ⟨text, "", .exit 0⟩

/-- The outcome of a run that was given up with a message. -/
def refused (message : String) (code : Nat) : Outcome := ⟨"", message, .exit code⟩

/-- The outcome of a run that failed. -/
def failed (failure : Failure) : Outcome := ⟨"", "", .failed failure⟩

end Outcome

/-- The outcome of a command line that asks for no conversion. -/
def Halt.outcome : Halt → Outcome
  | help => .completed Usage.help
  | version => .completed Usage.versionLine
  | noPath => .refused Usage.help 1
  | misuse m => .refused (Usage.refusal m.message) 2

/-- The value that names the space: its name, or an empty list if it was left blank. -/
def Settings.spaceValue (settings : Settings) : Value :=
  match settings.space with
  | some space => .str space.name
  | none => .arr []

/-- A document tree as the settings want it shown, which is as JSON text if the format was left
blank. -/
def Settings.present (settings : Settings) (node : Node) : Except Failure String :=
  match settings.format with
  | some .tree => node.dump 0
  | some .json | none =>
    match settings.indent with
    | .compact => node.toJson none
    | .width n => node.toJson (some n)
    | .blank => do
      let _ ← node.toValue
      throw .wrongType

/-- The outcome of the conversion of a source tree. -/
def Settings.outcomeOfTree (settings : Settings) (tree : Value) : Outcome :=
  match Conversion.documentTree tree settings.spaceValue settings.asFragment with
  | .error (.unsupportedKind kind) =>
    .refused (Failure.message (.unsupportedKind kind) ++ "\n") 2
  | .error failure => .failed failure
  | .ok node =>
    match settings.present node with
    | .ok text => .completed (text ++ "\n")
    | .error failure => .failed failure

/-- The outcome of the conversion of a source tree in JSON text. There are words only for a text
that is no JSON text. -/
def Settings.outcomeOfText (settings : Settings) (text : String) : Outcome :=
  match Json.read text with
  | .ok tree => settings.outcomeOfTree tree
  | .error (.longInteger digits) => .failed (.longInteger digits)
  | .error .loneSurrogate => .failed .loneSurrogate
  | .error fault => .refused ("Invalid JSON: " ++ fault.message text.toList ++ "\n") 2

/-- The text to be converted (`_read_tree`): the standard input if the path is `-`, and a file
otherwise, in which every line break counts as a line feed. -/
def Invocation.input (invocation : Invocation) (stdin : String)
    (readFile : String → Except Failure String) : Except Failure String :=
  if invocation.path = "-" then .ok stdin
  else (readFile invocation.path).map fun text =>
    String.ofList (Text.Newline.unify text.toList)

/-- The outcome of a run with some arguments, on a standard input and on files (`main`). -/
def run (args : List String) (stdin : String) (readFile : String → Except Failure String) :
    Outcome :=
  match Invocation.ofArguments args with
  | .error halt => halt.outcome
  | .ok invocation =>
    match invocation.input stdin readFile with
    | .ok text => invocation.settings.outcomeOfText text
    | .error failure => .failed failure

end MarkupTree.Command
