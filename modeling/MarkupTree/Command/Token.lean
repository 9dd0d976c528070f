import MarkupTree.Command.Key
import MarkupTree.Text.Word

/-!
# The parts of a command line

Each argument before `--` is an operand or a use of an option, whatever stands around it. A long
name may be shortened as long as it begins the name of only one option.

Results:

* `ofArgument_of_not_isDashed`: what is not dashed is an operand.
* `ofArguments_marker`: everything after `--` is an operand.
-/

namespace MarkupTree.Command

/-- A part of a command line. -/
inductive Token where
  | operand (text : String)
  /-- The argument `--`, after which there are only operands. -/
  | marker
  /-- A use of an option, with the value attached to its name if there is one. -/
  | option (key : Key) (attached : Option String)
  /-- What has the form of an option but names none. -/
  | unknown (text : String)
deriving DecidableEq, Repr

namespace Token

/-- The text before the first equals sign, and the text after it if there is one. -/
def cut : List Char → List Char × Option (List Char)
  | [] => ([], none)
  | '=' :: rest => ([], some rest)
  | c :: rest => (c :: (cut rest).1, (cut rest).2)

/-- Whether an argument can be a use of an option: a dash with something behind it. -/
def isDashed : List Char → Bool
  | '-' :: _ :: _ => true
  | _ => false

/-- Whether the characters are decimal digits, and there are some. -/
def isDigits (cs : List Char) : Bool :=
  !cs.isEmpty && cs.all fun c => (Text.digitValue? c).isSome

/-- Whether the characters are digits, or digits behind a point that may have digits before it. -/
def isUnsigned (cs : List Char) : Bool :=
  isDigits cs ||
    match cs.dropWhile fun c => (Text.digitValue? c).isSome with
    | '.' :: rest => isDigits rest
    | _ => false

/-- Whether an argument is a negative number, with a line break behind it or not. -/
def isNegative : List Char → Bool
  | '-' :: rest => isUnsigned (if rest.getLast? == some '\n' then rest.dropLast else rest)
  | _ => false

/-- The part that a dashed argument is if it names no option. -/
def ofUnnamed (arg : String) : Token :=
  if isNegative arg.toList || arg.toList.contains ' ' then .operand arg else .unknown arg

/-- What is attached to the last of several short options in one argument, of which `-h` was the
first. Each further `h` asks for help once more, and the text from the first other letter on is
attached to the last one. -/
def attachedToHelp : List Char → Option String
  | [] => none
  | 'h' :: rest => attachedToHelp rest
  | rest => some (String.ofList rest)

/-- What is attached to an option by the text behind an equals sign. Behind a short name, the text
may start with further short options. -/
def attachedBy (name : List Char) (text : Option (List Char)) : Option String :=
  match name, text with
  | ['-', 'h'], some (c :: rest) => attachedToHelp (c :: rest)
  | _, text => text.map String.ofList

/-- The part that a dashed argument is if the text before its equals sign is no name. -/
def ofShortened (arg : String) (name : List Char) (attached : Option String) :
    Except Misuse Token :=
  match name with
  | '-' :: '-' :: _ =>
    match Key.matching (String.ofList name) with
    | [] => .ok (ofUnnamed arg)
    | [(_, key)] => .ok (.option key attached)
    | candidates => .error (.ambiguous arg (candidates.map Prod.fst))
  | '-' :: 'h' :: _ => .ok (.option .help (attachedToHelp (arg.toList.drop 2)))
  | _ => .ok (ofUnnamed arg)

/-- The part that an argument is, unless it is `--` or stands after it. -/
def ofArgument (arg : String) : Except Misuse Token :=
  if isDashed arg.toList then
    let name := (cut arg.toList).1
    let attached := attachedBy name (cut arg.toList).2
    match Key.ofName? (String.ofList name) with
    | some key => .ok (.option key attached)
    | none => ofShortened arg name attached
  else .ok (.operand arg)

/-- The parts of a command line. -/
def ofArguments : List String → Except Misuse (List Token)
  | [] => .ok []
  | arg :: rest =>
    if arg = "--" then .ok (.marker :: rest.map .operand)
    else do
      let token ← ofArgument arg
      let tokens ← ofArguments rest
      return token :: tokens

theorem ofArguments_marker (rest : List String) :
    ofArguments ("--" :: rest) = .ok (.marker :: rest.map .operand) := by
  simp [ofArguments]

end Token

end MarkupTree.Command
