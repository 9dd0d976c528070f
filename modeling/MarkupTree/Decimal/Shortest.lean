import MarkupTree.Decimal.Binary

/-!
# The fewest digits that read back

A floating-point value stands for all real numbers that are rounded to it. Of the decimals among
them, those with the fewest digits are the candidates, and the one closest to the value is chosen.
-/

namespace MarkupTree.Decimal

/-- The decimal number `digits * 10 ^ exponent`. -/
structure Scaled where
  digits : Nat
  exponent : Int

/-- Whether a decimal is rounded to the binary value, a number halfway between two values going to
the even significand. -/
def Binary.readsBack (x : Binary) (d : Scaled) : Bool :=
  let low := if x.narrowBelow then 4 * x.significand - 1 else 4 * x.significand - 2
  let high := 4 * x.significand + 2
  let inclusive := x.significand % 2 == 0
  let above := compareScaled d.digits d.exponent low (x.exponent - 2)
  let below := compareScaled d.digits d.exponent high (x.exponent - 2)
  (above == .gt || inclusive && above == .eq) && (below == .lt || inclusive && below == .eq)

/-- The value in units of `10 ^ unit`, as a fraction. -/
def Binary.inUnits (x : Binary) (unit : Int) : Nat × Nat :=
  (x.significand * power 2 x.exponent * power 10 (-unit),
    power 2 (-x.exponent) * power 10 unit)

/-- The multiple of `10 ^ unit` closest to the value among those that read back, the even one if
two are equally close. -/
def Binary.nearest? (x : Binary) (unit : Int) : Option Scaled :=
  let (num, den) := x.inUnits unit
  let floor := num / den
  let lower : Scaled := ⟨floor, unit⟩
  let upper : Scaled := ⟨floor + 1, unit⟩
  if x.readsBack lower then
    if x.readsBack upper then
      match compare (2 * num) ((2 * floor + 1) * den) with
      | .lt => some lower
      | .gt => some upper
      | .eq => some (if floor % 2 == 0 then lower else upper)
    else some lower
  else if x.readsBack upper then some upper
  else none

/-- The least `k` with the value below `10 ^ k`, for a value that is not zero. -/
def Binary.scale (x : Binary) : Int :=
  let guess := Int.fdiv ((x.significand.log2 + x.exponent) * 30103) 100000 - 1
  let steps := [0, 1, 2, 3, 4].find? fun i : Nat =>
    Binary.compareScaled 1 (guess + i) x.significand x.exponent == .gt
  guess + (steps.getD 4 : Nat)

/-- Moves trailing zeros of the digits into the exponent, at most `fuel` of them. -/
def Scaled.strip : Nat → Scaled → Scaled
  | 0, d => d
  | fuel + 1, d =>
    if d.digits % 10 == 0 then Scaled.strip fuel ⟨d.digits / 10, d.exponent + 1⟩ else d

/-- The exact decimal of a binary value. -/
def Binary.exact (x : Binary) : Scaled :=
  if 0 ≤ x.exponent then ⟨x.significand * power 2 x.exponent, 0⟩
  else ⟨x.significand * power 5 (-x.exponent), x.exponent⟩

/-- The shortest decimal that reads back as the value, which is not zero. Seventeen digits are
enough for every 64-bit value. -/
def Binary.shortest (x : Binary) : Scaled :=
  let k := x.scale
  let found := (List.range 17).findSome? fun n => x.nearest? (k - (n + 1 : Nat))
  (found.getD x.exact).strip 20

end MarkupTree.Decimal
