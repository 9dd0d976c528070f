import MarkupTree.Decimal.Shortest

/-!
# Writing and reading floating-point values

A layout says which exponents are written positionally and how the values without digits are
called. Reading takes the digits and the exponent of a written number.

Results:

* `render_nan`: a NaN is written by its name.
-/

namespace MarkupTree.Decimal

/-- The decisions of a format for floating-point values. -/
structure Layout where
  /-- The least exponent of a leading digit that is written positionally. -/
  plainFrom : Int
  /-- The least exponent above these that is no longer written positionally. -/
  plainBelow : Int
  /-- The least count of digits of a written exponent. -/
  exponentWidth : Nat
  nan : String
  infinity : String

/-- The decimal digits of a natural number. -/
def natDigits (n : Nat) : List Char := Nat.toDigits 10 n

/-- The exponent of a number in scientific notation, with its sign. -/
def Layout.exponentChars (layout : Layout) (e : Int) : List Char :=
  let digits := natDigits e.natAbs
  (if e < 0 then '-' else '+') ::
    List.replicate (layout.exponentWidth - digits.length) '0' ++ digits

/-- A positive decimal number. -/
def Layout.decimalChars (layout : Layout) (d : Scaled) : List Char :=
  let digits := natDigits d.digits
  let leading := d.exponent + (digits.length : Int) - 1
  if layout.plainFrom ≤ leading ∧ leading < layout.plainBelow then
    if 0 ≤ d.exponent then digits ++ List.replicate d.exponent.toNat '0' ++ ['.', '0']
    else if 0 ≤ leading then
      digits.take (leading.toNat + 1) ++ '.' :: digits.drop (leading.toNat + 1)
    else '0' :: '.' :: List.replicate ((-leading).toNat - 1) '0' ++ digits
  else
    let fraction := if digits.length = 1 then [] else '.' :: digits.drop 1
    digits.take 1 ++ fraction ++ 'e' :: layout.exponentChars leading

/-- A value that is no NaN, without its sign. -/
def Layout.magnitudeChars (layout : Layout) (x : Float) : List Char :=
  if x.isInf then layout.infinity.toList
  else if x == 0 then ['0', '.', '0']
  else layout.decimalChars (Binary.ofFloat x).shortest

/-- The text of a floating-point value. -/
def Layout.render (layout : Layout) (x : Float) : List Char :=
  if x.isNaN then layout.nan.toList
  else (if isNegative x then ['-'] else []) ++ layout.magnitudeChars x

theorem render_nan (layout : Layout) {x : Float} (h : x.isNaN = true) :
    layout.render x = layout.nan.toList := by
  rw [Layout.render, if_pos h]

/-- The value closest to `digits * 10 ^ exponent`. Exponents that leave no doubt about the answer
are not raised to a power. -/
def toFloat (digits : Nat) (exponent : Int) : Float :=
  if digits = 0 then 0
  else if 400 < exponent then 1 / 0
  else if exponent < -(400 + digits.log2 : Int) then 0
  else Float.ofScientific digits (exponent < 0) exponent.natAbs

end MarkupTree.Decimal
