import MarkupTree.Decimal.Layout
import MarkupTree.Fields
import MarkupTree.Json.Fault
import MarkupTree.Value.Basic

/-!
# Reading JSON

A reader takes the remaining characters and returns what it read with the characters after it. The
names of the floating-point values that are not finite are accepted, and of several members with one
key the last value counts, at the place of the first. What no value is, is refused: a long integer
where it stands, and half of a pair of escapes once the whole text is known to be JSON text.

Results:

* `skipBlanks_append`: blanks before a text that starts with none are skipped.
* `length_lt_of_readEscape`: an escape uses up at least one character.
* `readString_quote`, `readString_cons`: a string ends at its quotation mark, and other characters
  stand for themselves.
-/

namespace MarkupTree.Json

/-- The characters that may stand between the parts of a value. -/
def isBlank (c : Char) : Bool := c == ' ' || c == '\t' || c == '\n' || c == '\r'

/-- The text after the blanks at its start. -/
def skipBlanks (cs : List Char) : List Char := cs.dropWhile isBlank

theorem skipBlanks_append {blanks rest : List Char} (h : ∀ c ∈ blanks, isBlank c = true)
    (hr : skipBlanks rest = rest) : skipBlanks (blanks ++ rest) = rest := by
  induction blanks with
  | nil => exact hr
  | cons c cs ih =>
    have hc : isBlank c = true := h c (by simp)
    have := ih fun d hd => h d (by simp [hd])
    simpa [skipBlanks, hc] using this

/-! ## Escapes -/

/-- The character that an escape letter stands for. -/
def unescape? (c : Char) : Option Char :=
  if c = '"' ∨ c = '\\' ∨ c = '/' then some c
  else if c = 'b' then some '\x08'
  else if c = 'f' then some '\x0c'
  else if c = 'n' then some '\n'
  else if c = 'r' then some '\r'
  else if c = 't' then some '\t'
  else none

/-- Whether a 16-bit unit is the first of a pair. -/
def isHighSurrogate (n : Nat) : Bool := 0xD800 ≤ n && n ≤ 0xDBFF

/-- Whether a 16-bit unit is the second of a pair. -/
def isLowSurrogate (n : Nat) : Bool := 0xDC00 ≤ n && n ≤ 0xDFFF

/-- The character of a 16-bit unit. Half of a pair is none, and the replacement character stands for
it until the text is refused. -/
def ofUnit (n : Nat) : Char :=
  if isHighSurrogate n || isLowSurrogate n then '\ufffd' else Char.ofNat n

/-- The character of a pair of 16-bit units. -/
def ofPair (high low : Nat) : Char :=
  Char.ofNat (0x10000 + (high - 0xD800) * 0x400 + (low - 0xDC00))

/-- Reads the four digits of a numbered escape, which must not end the text. A fault lies at the
letter before them. -/
def readUnit : List Char → Except Fault (Nat × List Char)
  | a :: b :: c :: d :: e :: rest =>
    match Text.Hexadecimal.value? [a, b, c, d] with
    | some n => .ok (n, e :: rest)
    | none => .error (.malformed .badUnicodeEscape (rest.length + 6))
  | rest => .error (.malformed .badUnicodeEscape (rest.length + 1))

/-- The unit of the numbered escape at the start of a text, if one that is long enough stands
there. -/
def readNextUnit : List Char → Except Fault (Option (Nat × List Char))
  | '\\' :: 'u' :: rest => if (rest.drop 4).isEmpty then .ok none else (readUnit rest).map some
  | _ => .ok none

/-- Reads a numbered escape after its letter. The first half of a pair takes the second half from
the escape that follows it. -/
def readNumbered (cs : List Char) : Except Fault (Char × List Char) := do
  let (unit, rest) ← readUnit cs
  if !isHighSurrogate unit then return (ofUnit unit, rest)
  match ← readNextUnit rest with
  | some (next, after) =>
    return if isLowSurrogate next then (ofPair unit next, after) else (ofUnit unit, rest)
  | none => return (ofUnit unit, rest)

/-- Reads an escape after its reverse solidus, where a fault of its letter lies. -/
def readEscape : List Char → Except Fault (Char × List Char)
  | [] => .error (.malformed .badEscape 1)
  | c :: rest =>
    if c = 'u' then readNumbered rest
    else match unescape? c with
      | some d => .ok (d, rest)
      | none => .error (.malformed .badEscape (rest.length + 2))

theorem length_of_readUnit {cs rest : List Char} {n : Nat} (h : readUnit cs = .ok (n, rest)) :
    rest.length + 4 = cs.length := by
  unfold readUnit at h
  split at h
  · split at h
    · cases h
      simp
    · contradiction
  · contradiction

theorem length_le_of_readNextUnit {cs rest : List Char} {n : Nat}
    (h : readNextUnit cs = .ok (some (n, rest))) : rest.length ≤ cs.length := by
  unfold readNextUnit at h
  split at h
  · rename_i more
    split at h
    · simp at h
    · cases hu : readUnit more with
      | error fault => simp [hu, Except.map] at h
      | ok p =>
        simp only [hu, Except.map, Except.ok.injEq, Option.some.injEq] at h
        subst h
        have := length_of_readUnit hu
        simp only [List.length_cons]
        omega
  · simp at h

theorem length_le_of_readNumbered {cs rest : List Char} {c : Char}
    (h : readNumbered cs = .ok (c, rest)) : rest.length ≤ cs.length := by
  simp only [readNumbered, bind, Except.bind, pure, Except.pure] at h
  split at h
  · contradiction
  · rename_i p hp
    have h1 := length_of_readUnit hp
    split at h
    · simp only [Except.ok.injEq, Prod.mk.injEq] at h
      rw [← h.2]
      omega
    · split at h
      · contradiction
      · rename_i hn
        split at h
        · have h2 := length_le_of_readNextUnit hn
          simp only [Except.ok.injEq] at h
          split at h
          · simp only [Prod.mk.injEq] at h
            rw [← h.2]
            omega
          · simp only [Prod.mk.injEq] at h
            rw [← h.2]
            omega
        · simp only [Except.ok.injEq, Prod.mk.injEq] at h
          rw [← h.2]
          omega

theorem length_lt_of_readEscape {cs rest : List Char} {c : Char}
    (h : readEscape cs = .ok (c, rest)) : rest.length < cs.length := by
  unfold readEscape at h
  split at h
  · contradiction
  · split at h
    · have := length_le_of_readNumbered h
      simp only [List.length_cons]
      omega
    · split at h
      · cases h
        simp
      · contradiction

/-! ## Strings -/

/-- Reads a string up to its closing quotation mark. `start` is the text from its opening mark on,
where the fault of a string without a closing mark lies. -/
def readString (start : List Char) : List Char → Except Fault (List Char × List Char)
  | [] => .error (.malformed .unterminatedString start.length)
  | c :: rest =>
    if c = '"' then .ok ([], rest)
    else if c = '\\' then
      if rest.isEmpty then .error (.malformed .unterminatedString start.length)
      else match _h : readEscape rest with
        | .error fault => .error fault
        | .ok (d, after) =>
          (readString start after).map fun (ds, tail) => (d :: ds, tail)
    else if c.toNat < 0x20 then .error (.malformed .controlCharacter (rest.length + 1))
    else (readString start rest).map fun (ds, tail) => (c :: ds, tail)
termination_by cs => cs.length
decreasing_by
  · have := length_lt_of_readEscape _h
    simp only [List.length_cons]
    omega
  · simp

@[simp] theorem readString_quote (start rest : List Char) :
    readString start ('"' :: rest) = .ok ([], rest) := by
  rw [readString]
  simp

theorem readString_cons {c : Char} (hq : c ≠ '"') (hb : c ≠ '\\') (hc : 0x20 ≤ c.toNat)
    (start rest : List Char) :
    readString start (c :: rest) =
      (readString start rest).map fun (ds, tail) => (c :: ds, tail) := by
  rw [readString]
  simp [hq, hb, Nat.not_lt.mpr hc]

/-! ## Numbers -/

/-- A number apart from its value: its sign, its digits before and after the point and its
exponent, the last two only if they are written. -/
structure Numeral where
  negative : Bool
  whole : List Char
  fraction : List Char
  exponent : Option Int

/-- The digits at the start of a text, and the text after them. -/
def spanDigits (cs : List Char) : List Char × List Char :=
  (cs.takeWhile Char.isDigit, cs.dropWhile Char.isDigit)

/-- The number that a sequence of decimal digits writes. -/
def natOfDigits (cs : List Char) : Nat := Nat.ofDigitChars 10 cs 0

/-- Reads the digits before the point: a zero alone, or digits that start with another one. -/
def readWhole? : List Char → Option (List Char × List Char)
  | [] => none
  | c :: rest =>
    if c = '0' then some (['0'], rest)
    else if c.isDigit then some (spanDigits (c :: rest))
    else none

/-- Reads a point with the digits after it; a point without digits is not read. -/
def readFraction : List Char → List Char × List Char
  | '.' :: rest =>
    let (digits, after) := spanDigits rest
    if digits.isEmpty then ([], '.' :: rest) else (digits, after)
  | cs => ([], cs)

/-- Reads an exponent; its letter without digits is not read. -/
def readExponent : List Char → Option Int × List Char
  | [] => (none, [])
  | c :: rest =>
    if c = 'e' ∨ c = 'E' then
      let (negative, unsigned) := match rest with
        | '-' :: more => (true, more)
        | '+' :: more => (false, more)
        | more => (false, more)
      let (digits, after) := spanDigits unsigned
      if digits.isEmpty then (none, c :: rest)
      else
        let n : Int := natOfDigits digits
        (some (if negative then -n else n), after)
    else (none, c :: rest)

/-- Reads a number, or returns `none` where none starts. -/
def readNumeral? (cs : List Char) : Option (Numeral × List Char) := do
  let (negative, unsigned) := match cs with
    | '-' :: rest => (true, rest)
    | _ => (false, cs)
  let (whole, afterWhole) ← readWhole? unsigned
  let (fraction, afterFraction) := readFraction afterWhole
  let (exponent, rest) := readExponent afterFraction
  return (⟨negative, whole, fraction, exponent⟩, rest)

/-- The integer before the point of a number. -/
def Numeral.integer (n : Numeral) : Int :=
  let whole : Int := natOfDigits n.whole
  if n.negative then -whole else whole

/-- The value of a number: an integer, unless it has a fraction or an exponent. A long integer is no
value. -/
def Numeral.value (n : Numeral) : Except Fault Value :=
  if n.fraction.isEmpty && n.exponent.isNone then
    match Text.Integer.ofInt? n.integer with
    | some whole => .ok (.int whole)
    | none => .error (.longInteger n.whole.length)
  else
    let magnitude := Decimal.toFloat (natOfDigits (n.whole ++ n.fraction))
      (n.exponent.getD 0 - n.fraction.length)
    .ok (.float (if n.negative then -magnitude else magnitude))

/-! ## Values -/

/-- The names of values, each with its value. -/
def words : List (List Char × Value) :=
  [("null".toList, .null), ("true".toList, .bool true), ("false".toList, .bool false),
   ("NaN".toList, .float (0 / 0)), ("Infinity".toList, .float (1 / 0)),
   ("-Infinity".toList, .float (-1 / 0))]

/-- Reads a name or a number. -/
def readScalar (cs : List Char) : Except Fault (Value × List Char) :=
  match words.find? fun word => word.1.isPrefixOf cs with
  | some (word, v) => .ok (v, cs.drop word.length)
  | none => match readNumeral? cs with
    | some (n, rest) => n.value.map fun v => (v, rest)
    | none => .error (.malformed .noValue cs.length)

mutual

/-- Reads a value. `fuel` bounds the number of nested calls. -/
def readValue : Nat → List Char → Except Fault (Value × List Char)
  | 0, cs => .error (.malformed .noValue cs.length)
  | fuel + 1, cs =>
    match cs with
    | '"' :: rest => do
      let (chars, rest) ← readString cs rest
      return (.str (String.ofList chars), rest)
    | '[' :: rest =>
      match skipBlanks rest with
      | ']' :: rest => .ok (.arr [], rest)
      | rest => do
        let (items, rest) ← readItems fuel rest
        return (.arr items, rest)
    | '\x7b' :: rest =>
      match skipBlanks rest with
      | '\x7d' :: rest => .ok (.obj [], rest)
      | rest => do
        let (members, rest) ← readMembers fuel rest
        return (.obj (Fields.ofPairs members), rest)
    | cs => readScalar cs

/-- Reads the items of a list up to its closing bracket. -/
def readItems : Nat → List Char → Except Fault (List Value × List Char)
  | 0, cs => .error (.malformed .noValue cs.length)
  | fuel + 1, cs => do
    let (v, rest) ← readValue fuel cs
    match skipBlanks rest with
    | ']' :: rest => return ([v], rest)
    | ',' :: rest =>
      let (items, rest) ← readItems fuel (skipBlanks rest)
      return (v :: items, rest)
    | rest => .error (.malformed .noComma rest.length)

/-- Reads the members of an object up to its closing brace. -/
def readMembers : Nat → List Char → Except Fault (List (String × Value) × List Char)
  | 0, cs => .error (.malformed .noPropertyName cs.length)
  | fuel + 1, cs => do
    match cs with
    | '"' :: rest =>
      let (key, rest) ← readString cs rest
      match skipBlanks rest with
      | ':' :: rest =>
        let (v, rest) ← readValue fuel (skipBlanks rest)
        match skipBlanks rest with
        | '\x7d' :: rest => return ([(String.ofList key, v)], rest)
        | ',' :: rest =>
          let (members, rest) ← readMembers fuel (skipBlanks rest)
          return ((String.ofList key, v) :: members, rest)
        | rest => .error (.malformed .noComma rest.length)
      | rest => .error (.malformed .noColon rest.length)
    | cs => .error (.malformed .noPropertyName cs.length)

end

/-! ## Texts -/

/-- The 16-bit units of the numbered escapes of a text, and `none` for each of its other characters
and escapes. -/
def units : List Char → List (Option Nat)
  | [] => []
  | '\\' :: 'u' :: a :: b :: c :: d :: rest => Text.Hexadecimal.value? [a, b, c, d] :: units rest
  | '\\' :: _ :: rest => none :: units rest
  | _ :: rest => none :: units rest

/-- Whether the second half of a pair stands right behind every first half, and nowhere else. -/
def arePaired : List (Option Nat) → Bool
  | [] => true
  | none :: rest => arePaired rest
  | some high :: some low :: rest =>
    if isHighSurrogate high then isLowSurrogate low && arePaired rest
    else !isLowSurrogate high && arePaired (some low :: rest)
  | some unit :: rest => !isHighSurrogate unit && !isLowSurrogate unit && arePaired rest

/-- Reads a text that holds one value. Two calls for each character are more than any value
needs. -/
def readChars (cs : List Char) : Except Fault Value := do
  if cs.head? = some '\ufeff' then throw (.malformed .byteOrderMark cs.length)
  let (v, rest) ← readValue (2 * cs.length + 2) (skipBlanks cs)
  match skipBlanks rest with
  | [] => if arePaired (units cs) then return v else throw .loneSurrogate
  | rest => throw (.malformed .extraData rest.length)

/-- The value that a text holds. -/
def read (text : String) : Except Fault Value := readChars text.toList

end MarkupTree.Json
