/-!
# Binary floating-point values as exact numbers

A finite 64-bit value is a natural significand times a power of two, with a sign. Comparisons with
integers and with decimals are made on these exact numbers.
-/

namespace MarkupTree.Decimal

/-- The power of a natural number; an exponent below zero counts as zero. -/
def power (base : Nat) (exponent : Int) : Nat := Nat.pow base exponent.toNat

/-- The magnitude `significand * 2 ^ exponent` of a finite 64-bit value. -/
structure Binary where
  significand : Nat
  exponent : Int
  /-- The value below is half as far away as the value above. -/
  narrowBelow : Bool

namespace Binary

/-- The magnitude of a value that is neither infinite nor a NaN. -/
def ofFloat (x : Float) : Binary :=
  let bits : Nat := x.toBits.toNat
  let fraction : Nat := bits % power 2 52
  let biased : Nat := bits / power 2 52 % power 2 11
  if biased = 0 then ⟨fraction, -1074, false⟩
  else ⟨power 2 52 + fraction, (biased : Int) - 1075, fraction == 0 && 1 < biased⟩

/-- The value `a * 10 ^ i` compared with `b * 2 ^ j`. -/
def compareScaled (a : Nat) (i : Int) (b : Nat) (j : Int) : Ordering :=
  compare (a * power 10 i * power 2 (-j)) (b * power 2 j * power 10 (-i))

/-- An integer compared with the value that has this magnitude and sign. -/
def compareInt (n : Int) (negative : Bool) (x : Binary) : Ordering :=
  let magnitude : Int := (x.significand * power 2 x.exponent : Nat)
  compare (n * (power 2 (-x.exponent) : Nat)) (if negative then -magnitude else magnitude)

end Binary

/-- Whether the sign bit is set. -/
def isNegative (x : Float) : Bool := x.toBits.toNat / power 2 63 == 1

/-- An integer compared with a floating-point value, or `none` for a NaN. -/
def compareInt? (n : Int) (x : Float) : Option Ordering :=
  if x.isNaN then none
  else if x.isInf then some (if isNegative x then .gt else .lt)
  else some (Binary.compareInt n (isNegative x) (Binary.ofFloat x))

end MarkupTree.Decimal
