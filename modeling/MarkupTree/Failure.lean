import MarkupTree.Value.Text

/-!
# Failures

What can go wrong while trees are read, converted, shown or edited. A failure has a cause; its
wording is in one place. Widths of indentation, in spaces, and indices are counted in machine words.

Results:

* `kindMessage_of_ne_null`, `message_missingKey`: the wordings that quote a value.
* `Width.check_eq_ok_iff`: the widths that texts can be indented by.
-/

namespace MarkupTree

/-- Why an operation has no result. -/
inductive Failure where
  /-- A source node is of no kind that can be converted; the kind is null if it has none. -/
  | unsupportedKind (kind : Value)
  /-- No schema has this name. -/
  | unknownSpace (space : Value)
  /-- A key, name or id is not there. -/
  | missingKey (key : Value)
  /-- A member was asked of a value or node that has no such member. -/
  | noSuchMember
  /-- A value is of a type that does not allow the operation. -/
  | wrongType
  /-- A list has no item at an index. -/
  | outOfRange
  /-- A number is beyond the machine words that widths and indices are counted in. -/
  | tooLarge
  /-- An integer has so many digits that it has no text. -/
  | longInteger (digits : Nat)
  /-- Half of a pair that stands for one character stands alone. -/
  | loneSurrogate
  | fileNotFound (path : String)
  | isDirectory (path : String)
  | notADirectory (path : String)
  /-- A file name, or a step of it, is longer than any name of a file. -/
  | nameTooLong (path : String)
  /-- A file name holds a null character. -/
  | nullInPath

namespace Failure

/-- The kinds of source nodes, as a message lists them (`KNOWN_NODE_TYPES`). -/
def knownKinds : List String := ["root", "element", "text", "comment", "doctype"]

/-- The known kinds, quoted. -/
def knownKindsText : String := ", ".intercalate (knownKinds.map Text.Quoted.quote)

/-- The wording for a source node of a kind that cannot be converted (`generate_error_message`). -/
def kindMessage (kind : Value) : String :=
  match kind with
  | .null => "Cannot convert node without a \x60type\x60"
  | kind =>
    "Cannot convert unknown node type " ++ kind.literal ++ " (expected one of " ++
      knownKindsText ++ ")"

/-- The wording of a failure. -/
def message : Failure → String
  | unsupportedKind kind => kindMessage kind
  | unknownSpace space => "Unknown space " ++ space.literal ++ " (expected 'html' or 'svg')"
  | missingKey key => key.literal
  | noSuchMember => "no such member"
  | wrongType => "wrong type"
  | outOfRange => "index out of range"
  | tooLarge => "number too large"
  | longInteger digits =>
    s!"Exceeds the limit ({Text.maxDigits} digits) for integer string conversion: value has " ++
      s!"{digits} digits; use sys.set_int_max_str_digits() to increase the limit"
  | loneSurrogate => "surrogates not allowed"
  | fileNotFound path => "[Errno 2] No such file or directory: " ++ Text.Quoted.quote path
  | isDirectory path => "[Errno 21] Is a directory: " ++ Text.Quoted.quote path
  | notADirectory path => "[Errno 20] Not a directory: " ++ Text.Quoted.quote path
  | nameTooLong path => "[Errno 36] File name too long: " ++ Text.Quoted.quote path
  | nullInPath => "embedded null byte"

theorem kindMessage_of_ne_null {kind : Value} (h : kind ≠ .null) :
    kindMessage kind = "Cannot convert unknown node type " ++ kind.literal ++
      " (expected one of " ++ knownKindsText ++ ")" := by
  cases kind <;> first | exact absurd rfl h | rfl

theorem message_missingKey (key : Value) : message (.missingKey key) = key.literal := rfl

end Failure

/-! ## Machine words -/

namespace Width

/-- Whether a number is a signed word of 64 bits. -/
def isWord (n : Int) : Bool :=
  decide (-0x8000000000000000 ≤ n) && decide (n ≤ 0x7fffffffffffffff)

/-- Refuses a width that no text can be indented by. A negative one counts as zero. -/
def check (width : Int) : Except Failure Unit :=
  if isWord width then .ok () else .error .tooLarge

theorem isWord_iff {n : Int} :
    isWord n = true ↔ -0x8000000000000000 ≤ n ∧ n ≤ 0x7fffffffffffffff := by
  simp [isWord]

theorem check_eq_ok_iff {width : Int} : check width = .ok () ↔ isWord width = true := by
  cases h : isWord width <;> simp [check, h]

end Width

end MarkupTree
