import MarkupTree.Text.LetterCase.Table

/-!
# Lower and upper case

Names are compared by their lower forms. A capital sigma at the end of a word has a lower form of
its own, so the lower form of a text depends on the neighbours of each sigma.

Results:

* `lowerChars_of_ascii`: on ASCII text, lower-casing works character by character.
-/

namespace MarkupTree.Text

open LetterCase

/-- The lower form of one character, apart from its neighbours. -/
def lowerChar (c : Char) : List Char :=
  if c.toNat < 0x80 then [c.toLower]
  else if c = 'İ' then ['i', '\u0307']
  else match Run.image? lowerRuns c.toNat with
    | some n => [Char.ofNat n]
    | none => [c]

/-- The upper form of one character. -/
def upperChar (c : Char) : List Char :=
  if c.toNat < 0x80 then [c.toUpper]
  else match upperSequences.lookup c.toNat with
    | some ns => ns.map Char.ofNat
    | none => match Run.image? upperRuns c.toNat with
      | some n => [Char.ofNat n]
      | none => [c]

/-- Whether the search for a neighbouring letter passes over the character. -/
def isCaseIgnorable (c : Char) : Bool :=
  if c.toNat < 0x80 then [0x27, 0x2E, 0x3A, 0x5E, 0x60].contains c.toNat
  else Ranges.mem c.toNat ignorableRanges

/-- Whether the character is a letter with a case. -/
def isCased (c : Char) : Bool :=
  if c.toNat < 0x80 then c.isAlpha else Ranges.mem c.toNat casedRanges

/-- Whether the first character that is not passed over is a letter with a case. -/
def startsCased : List Char → Bool
  | [] => false
  | c :: rest => if isCaseIgnorable c then startsCased rest else isCased c

/-- The lower form of a text; `inWord` tells whether a letter with a case comes before it. -/
def lowerFrom (inWord : Bool) : List Char → List Char
  | [] => []
  | c :: rest =>
    (if c = 'Σ' then [if inWord && !startsCased rest then 'ς' else 'σ'] else lowerChar c) ++
      lowerFrom (if isCaseIgnorable c then inWord else isCased c) rest

/-- The lower form of a text. -/
def lowerChars (cs : List Char) : List Char := lowerFrom false cs

/-- The lower form of a text. -/
def lower (s : String) : String := String.ofList (lowerChars s.toList)

/-! ## ASCII text -/

theorem lowerChar_of_ascii {c : Char} (h : c.toNat < 0x80) : lowerChar c = [c.toLower] := by
  simp [lowerChar, h]

theorem lowerFrom_of_ascii {cs : List Char} (h : ∀ c ∈ cs, c.toNat < 0x80) (inWord : Bool) :
    lowerFrom inWord cs = cs.map Char.toLower := by
  induction cs generalizing inWord with
  | nil => rfl
  | cons c rest ih =>
    have hc : c.toNat < 0x80 := h c (by simp)
    have hs : c ≠ 'Σ' := by
      intro e
      subst e
      simp at hc
    simp [lowerFrom, hs, lowerChar_of_ascii hc, ih (fun d hd => h d (by simp [hd]))]

theorem lowerChars_of_ascii {cs : List Char} (h : ∀ c ∈ cs, c.toNat < 0x80) :
    lowerChars cs = cs.map Char.toLower :=
  lowerFrom_of_ascii h false

end MarkupTree.Text
