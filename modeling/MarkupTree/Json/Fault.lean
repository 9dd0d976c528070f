import MarkupTree.Failure

/-!
# Faults in JSON text

A text that is no JSON text has a fault with a cause and a place. The place is kept as the number of
characters from it to the end of the text, which a reader of the remaining text knows at once; lines
and columns are counted when the fault is shown. A text that is JSON text may still hold what no
value is; it then fails as other operations do.

Results:

* `Position.of_zero`: the start of a text is line 1, column 1.
-/

namespace MarkupTree.Json

/-- Why a text is no JSON text. -/
inductive Cause where
  | byteOrderMark
  | noValue
  | noPropertyName
  | noColon
  | noComma
  | extraData
  | unterminatedString
  | controlCharacter
  | badEscape
  | badUnicodeEscape
deriving DecidableEq, Repr

/-- The wording of a cause. -/
def Cause.message : Cause → String
  | byteOrderMark => "Unexpected UTF-8 BOM (decode using utf-8-sig)"
  | noValue => "Expecting value"
  | noPropertyName => "Expecting property name enclosed in double quotes"
  | noColon => "Expecting ':' delimiter"
  | noComma => "Expecting ',' delimiter"
  | extraData => "Extra data"
  | unterminatedString => "Unterminated string starting at"
  | controlCharacter => "Invalid control character at"
  | badEscape => "Invalid \\escape"
  | badUnicodeEscape => "Invalid \\uXXXX escape"

/-- Why a text has no value. -/
inductive Fault where
  /-- The cause, and the number of characters from its place to the end of the text. -/
  | malformed (cause : Cause) (left : Nat)
  /-- An integer has so many digits that it has no value. -/
  | longInteger (digits : Nat)
  /-- An escape stands for half of a pair that stands for one character. -/
  | loneSurrogate

/-- A place in a text: lines and columns from 1, characters from 0. -/
structure Position where
  line : Nat
  column : Nat
  offset : Nat
deriving DecidableEq, Repr

/-- The position after the first `offset` characters of a text. -/
def Position.of (text : List Char) (offset : Nat) : Position where
  line := (text.take offset).count '\n' + 1
  column := ((text.take offset).reverse.takeWhile (· != '\n')).length + 1
  offset := offset

@[simp] theorem Position.of_zero (text : List Char) : Position.of text 0 = ⟨1, 1, 0⟩ := by
  simp [Position.of]

/-- The fault in words, with its place in the text if it has one. -/
def Fault.message (text : List Char) : Fault → String
  | malformed cause left =>
    let p := Position.of text (text.length - left)
    s!"{cause.message}: line {p.line} column {p.column} (char {p.offset})"
  | longInteger digits => Failure.message (.longInteger digits)
  | loneSurrogate => Failure.message .loneSurrogate

end MarkupTree.Json
