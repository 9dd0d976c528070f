/-!
# Tables of code points, and white space

A property of characters is given by the closed ranges of code points that have it, in ascending
order. All tables of this folder follow version 14 of the Unicode character database. White space is
what is cut off both ends of a joined list of values.

Results:

* `Ranges.mem_cons`: a code point is in a table when it is in its first range or in the rest.
* `isBlank_of_isWhitespace`: every ASCII white space character is blank.
* `dropWhile_eq_self_iff`: nothing is cut off the front of a text that starts with another
  character.
-/

namespace MarkupTree.Text

namespace Ranges

/-- Whether the code point lies in one of the closed ranges. -/
def mem (n : Nat) : List (Nat × Nat) → Bool
  | [] => false
  | (lo, hi) :: rest => (lo ≤ n && n ≤ hi) || mem n rest

@[simp] theorem mem_nil (n : Nat) : mem n [] = false := rfl

@[simp] theorem mem_cons (n lo hi : Nat) (rest : List (Nat × Nat)) :
    mem n ((lo, hi) :: rest) = ((lo ≤ n && n ≤ hi) || mem n rest) := rfl

end Ranges

/-! ## White space -/

/-- The white space characters, the four ASCII separators U+001C to U+001F among them. -/
def blankRanges : List (Nat × Nat) :=
  [(0x9, 0xD), (0x1C, 0x20), (0x85, 0x85), (0xA0, 0xA0), (0x1680, 0x1680), (0x2000, 0x200A),
   (0x2028, 0x2029), (0x202F, 0x202F), (0x205F, 0x205F), (0x3000, 0x3000)]

/-- Whether the character is white space. -/
def isBlank (c : Char) : Bool := Ranges.mem c.toNat blankRanges

theorem isBlank_of_isWhitespace {c : Char} (h : c.isWhitespace = true) : isBlank c = true := by
  simp [Char.isWhitespace] at h
  rcases h with ((h | h) | h) | h <;> subst h <;> decide

/-- The text without the white space at its two ends. -/
def stripChars (cs : List Char) : List Char :=
  ((cs.dropWhile isBlank).reverse.dropWhile isBlank).reverse

/-- The text without the white space at its two ends. -/
def strip (s : String) : String := String.ofList (stripChars s.toList)

@[simp] theorem stripChars_nil : stripChars [] = [] := rfl

theorem dropWhile_eq_self_iff (cs : List Char) :
    cs.dropWhile isBlank = cs ↔ ∀ c, cs.head? = some c → isBlank c = false := by
  cases cs with
  | nil => simp
  | cons c cs =>
    by_cases h : isBlank c
    · simp only [List.dropWhile_cons, h, if_true]
      constructor
      · intro e
        have := congrArg List.length e
        have := (List.dropWhile_sublist isBlank (l := cs)).length_le
        simp at *
        omega
      · intro e
        have := e c rfl
        simp [h] at this
    · simp [h]

end MarkupTree.Text
