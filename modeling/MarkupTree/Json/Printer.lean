import MarkupTree.Value.Text

/-!
# Writing JSON

A value is written on one line, with a space after each comma and colon, or with every item on a
line of its own, indented by a fixed width for each level. Characters beyond ASCII stand for
themselves.

Results:

* `escape_eq_self_iff`: which characters stand for themselves between quotation marks.
* `write_arr_nil`, `write_obj_nil`: an empty list or object is never broken into lines.
* `write_append`: the text of a value does not depend on what follows it.
-/

namespace MarkupTree.Json

/-- One character between the quotation marks of a string. -/
def escape (c : Char) : List Char :=
  if c = '"' ∨ c = '\\' then ['\\', c]
  else if c = '\n' then ['\\', 'n']
  else if c = '\r' then ['\\', 'r']
  else if c = '\t' then ['\\', 't']
  else if c = '\x08' then ['\\', 'b']
  else if c = '\x0c' then ['\\', 'f']
  else if c.toNat < 0x20 then '\\' :: 'u' :: Text.Hexadecimal.digits 4 c.toNat
  else [c]

/-- A string in quotation marks, followed by `rest`. -/
def writeString (s : String) (rest : List Char) : List Char :=
  '"' :: (s.toList.flatMap escape ++ '"' :: rest)

/-- Floating-point values are written as in running text, apart from the names of those that are
not finite. -/
def floatLayout : Decimal.Layout :=
  { Value.floatLayout with nan := "NaN", infinity := "Infinity" }

/-- The break before an item at a level; none on a single line. A negative width counts as zero. -/
def lineBreak (indent : Option Int) (level : Nat) : List Char :=
  match indent with
  | none => []
  | some width => '\n' :: List.replicate (width.toNat * level) ' '

/-- What stands between two items of a level. -/
def separator (indent : Option Int) (level : Nat) : List Char :=
  match indent with
  | none => [',', ' ']
  | some _ => ',' :: lineBreak indent level

mutual

/-- The text of a value that stands at a level, followed by `rest`. -/
def write (indent : Option Int) (level : Nat) : Value → List Char → List Char
  | .null, rest => 'n' :: 'u' :: 'l' :: 'l' :: rest
  | .bool true, rest => 't' :: 'r' :: 'u' :: 'e' :: rest
  | .bool false, rest => 'f' :: 'a' :: 'l' :: 's' :: 'e' :: rest
  | .int n, rest => n.repr.toList ++ rest
  | .float x, rest => floatLayout.render x ++ rest
  | .str s, rest => writeString s rest
  | .arr [], rest => '[' :: ']' :: rest
  | .arr (v :: items), rest =>
    '[' :: (lineBreak indent (level + 1) ++ write indent (level + 1) v
      (writeItems indent (level + 1) items (lineBreak indent level ++ ']' :: rest)))
  | .obj [], rest => '\x7b' :: '\x7d' :: rest
  | .obj ((k, v) :: fields), rest =>
    '\x7b' :: (lineBreak indent (level + 1) ++ writeString k (':' :: ' ' ::
      write indent (level + 1) v
        (writeMembers indent (level + 1) fields (lineBreak indent level ++ '\x7d' :: rest))))

/-- The items of a list after its first, followed by `rest`. -/
def writeItems (indent : Option Int) (level : Nat) : List Value → List Char → List Char
  | [], rest => rest
  | v :: items, rest =>
    separator indent level ++ write indent level v (writeItems indent level items rest)

/-- The members of an object after its first, followed by `rest`. -/
def writeMembers (indent : Option Int) (level : Nat) :
    List (String × Value) → List Char → List Char
  | [], rest => rest
  | (k, v) :: fields, rest =>
    separator indent level ++ writeString k (':' :: ' ' ::
      write indent level v (writeMembers indent level fields rest))

end

/-- The text of a value, on one line or with the given indentation. -/
def render (v : Value) (indent : Option Int) : String := String.ofList (write indent 0 v [])

theorem escape_eq_self_iff (c : Char) :
    escape c = [c] ↔ c ≠ '"' ∧ c ≠ '\\' ∧ 0x20 ≤ c.toNat := by
  constructor
  · intro h
    refine ⟨?_, ?_, ?_⟩
    · rintro rfl
      simp [escape] at h
    · rintro rfl
      simp [escape] at h
    · have hl := congrArg List.length h
      simp only [escape] at hl
      repeat' split at hl
      all_goals simp at hl
      omega
  · rintro ⟨h1, h2, h3⟩
    have hne : ∀ d : Char, d.toNat < 0x20 → c ≠ d := by
      rintro d hd rfl
      omega
    simp [escape, h1, h2, hne '\n' (by decide), hne '\r' (by decide), hne '\t' (by decide),
      hne '\x08' (by decide), hne '\x0c' (by decide), Nat.not_lt.mpr h3]

@[simp] theorem write_arr_nil (indent : Option Int) (level : Nat) (rest : List Char) :
    write indent level (.arr []) rest = '[' :: ']' :: rest := by
  rw [write]

@[simp] theorem write_obj_nil (indent : Option Int) (level : Nat) (rest : List Char) :
    write indent level (.obj []) rest = '\x7b' :: '\x7d' :: rest := by
  rw [write]

theorem writeString_append (s : String) (text rest : List Char) :
    writeString s text ++ rest = writeString s (text ++ rest) := by
  simp [writeString]

mutual

theorem write_append (indent : Option Int) : ∀ (level : Nat) (v : Value) (text rest : List Char),
    write indent level v text ++ rest = write indent level v (text ++ rest)
  | _, .null, _, _ => by simp [write]
  | _, .bool true, _, _ => by simp [write]
  | _, .bool false, _, _ => by simp [write]
  | _, .int _, _, _ => by simp [write]
  | _, .float _, _, _ => by simp [write]
  | _, .str s, text, rest => by simp [write, writeString_append]
  | _, .arr [], _, _ => by simp
  | level, .arr (v :: items), text, rest => by
    simp [write, write_append indent (level + 1) v, writeItems_append indent (level + 1) items]
  | _, .obj [], _, _ => by simp
  | level, .obj ((k, v) :: fields), text, rest => by
    simp [write, writeString_append, write_append indent (level + 1) v,
      writeMembers_append indent (level + 1) fields]

theorem writeItems_append (indent : Option Int) :
    ∀ (level : Nat) (items : List Value) (text rest : List Char),
      writeItems indent level items text ++ rest = writeItems indent level items (text ++ rest)
  | _, [], _, _ => by simp [writeItems]
  | level, v :: items, text, rest => by
    simp [writeItems, write_append indent level v, writeItems_append indent level items]

theorem writeMembers_append (indent : Option Int) :
    ∀ (level : Nat) (fields : List (String × Value)) (text rest : List Char),
      writeMembers indent level fields text ++ rest =
        writeMembers indent level fields (text ++ rest)
  | _, [], _, _ => by simp [writeMembers]
  | level, (k, v) :: fields, text, rest => by
    simp [writeMembers, writeString_append, write_append indent level v,
      writeMembers_append indent level fields]

end

end MarkupTree.Json
