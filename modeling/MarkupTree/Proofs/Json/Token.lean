import Mathlib.Data.List.Basic
import MarkupTree.Json.Printer
import MarkupTree.Json.Reader

/-!
# Strings and integers read back

The written form of a string or of an integer is read back to it, whatever text follows, as long as
that text does not go on with the number.

Results:

* `readString_escape`: an escaped character is read back.
* `readString_flatMap_escape`: a string is read back up to its closing mark.
* `readWhole?_toDigits`: the digits of a natural number are read back.
* `readScalar_repr`: an integer is read back.
* `readScalar_long`: an integer with too many digits is refused.
-/

namespace MarkupTree.Json

open Text (Hexadecimal.digits Hexadecimal.value?)

/-! ## Strings -/

/-- The outcome of reading a string with one more character in front. -/
def prepend (c : Char) : List Char × List Char → List Char × List Char :=
  fun (cs, rest) => (c :: cs, rest)

theorem readString_backslash {text after : List Char} {c : Char}
    (h : readEscape text = .ok (c, after)) (start : List Char) :
    readString start ('\\' :: text) = (readString start after).map (prepend c) := by
  have hne : text ≠ [] := by
    rintro rfl
    contradiction
  rw [readString, if_neg (by decide), if_pos rfl, if_neg (by simpa using hne)]
  split
  · rename_i h'
    rw [h] at h'
    contradiction
  · rename_i h'
    rw [h] at h'
    obtain ⟨rfl, rfl⟩ := Prod.mk.inj (Except.ok.inj h')
    rfl

theorem readString_letter {letter c : Char} (hu : letter ≠ 'u') (h : unescape? letter = some c)
    (start rest : List Char) :
    readString start ('\\' :: letter :: rest) = (readString start rest).map (prepend c) := by
  apply readString_backslash
  rw [readEscape, if_neg hu, h]

theorem value?_digits {n : Nat} (h : n < 0x20) :
    Hexadecimal.value? (Hexadecimal.digits 4 n) = some n := by
  revert n
  decide

theorem readUnit_digits {n : Nat} (h : n < 0x20) (e : Char) (rest : List Char) :
    readUnit (Hexadecimal.digits 4 n ++ e :: rest) = .ok (n, e :: rest) := by
  have hv := value?_digits h
  have hl := Text.Hexadecimal.length_digits 4 n
  revert hv hl
  generalize Hexadecimal.digits 4 n = ds
  intro hv hl
  obtain ⟨a, b, c, d, rfl⟩ := List.length_eq_four.mp hl
  simp only [List.cons_append, List.nil_append, readUnit, hv]

theorem readNumbered_digits {c : Char} (h : c.toNat < 0x20) (e : Char) (rest : List Char) :
    readNumbered (Hexadecimal.digits 4 c.toNat ++ e :: rest) = .ok (c, e :: rest) := by
  have hhigh : isHighSurrogate c.toNat = false := by
    rw [isHighSurrogate, Bool.and_eq_false_iff]
    left
    simp
    omega
  have hlow : isLowSurrogate c.toNat = false := by
    rw [isLowSurrogate, Bool.and_eq_false_iff]
    left
    simp
    omega
  have hunit : ofUnit c.toNat = c := by
    rw [ofUnit, hhigh, hlow]
    exact Char.ofNat_toNat c
  rw [readNumbered, readUnit_digits h]
  show (if !isHighSurrogate c.toNat then _ else _) = _
  rw [hhigh, hunit]
  rfl

/-- A character is read back from its written form, which something must follow. -/
theorem readString_escape (c : Char) {rest : List Char} (hrest : rest ≠ []) (start : List Char) :
    readString start (escape c ++ rest) = (readString start rest).map (prepend c) := by
  obtain ⟨e, more, rfl⟩ := List.exists_cons_of_ne_nil hrest
  unfold escape
  split
  · rename_i h
    rcases h with rfl | rfl <;> exact readString_letter (by decide) rfl _ _
  split
  · subst c
    exact readString_letter (by decide) rfl _ _
  split
  · subst c
    exact readString_letter (by decide) rfl _ _
  split
  · subst c
    exact readString_letter (by decide) rfl _ _
  split
  · subst c
    exact readString_letter (by decide) rfl _ _
  split
  · subst c
    exact readString_letter (by decide) rfl _ _
  split
  · rename_i h
    apply readString_backslash
    show readNumbered (Hexadecimal.digits 4 c.toNat ++ e :: more) = _
    exact readNumbered_digits h e more
  · rename_i h _ _ _ _ _ hc
    rw [not_or] at h
    exact readString_cons h.1 h.2 (Nat.not_lt.mp hc) _ _

/-- A string is read back up to its closing mark. -/
theorem readString_flatMap_escape (start cs rest : List Char) :
    readString start (cs.flatMap escape ++ '"' :: rest) = .ok (cs, rest) := by
  induction cs with
  | nil => exact readString_quote start rest
  | cons c cs ih =>
    rw [List.flatMap_cons, List.append_assoc, readString_escape c (by simp), ih]
    rfl

/-! ## Integers -/

/-- Whether a text does not go on with a number that ends before it. -/
def EndsNumber (rest : List Char) : Prop :=
  ∀ c, rest.head? = some c → c.isDigit = false ∧ c ≠ '.' ∧ c ≠ 'e' ∧ c ≠ 'E'

theorem endsNumber_nil : EndsNumber [] := by
  intro c h
  contradiction

theorem endsNumber_cons {c : Char} (h : c.isDigit = false ∧ c ≠ '.' ∧ c ≠ 'e' ∧ c ≠ 'E')
    (rest : List Char) : EndsNumber (c :: rest) := by
  intro d hd
  obtain rfl := Option.some.inj hd
  exact h

theorem spanDigits_append {ds rest : List Char} (hds : ∀ c ∈ ds, c.isDigit = true)
    (hrest : EndsNumber rest) : spanDigits (ds ++ rest) = (ds, rest) := by
  rw [spanDigits, List.takeWhile_append_of_pos hds, List.dropWhile_append_of_pos hds]
  cases rest with
  | nil => simp
  | cons c rest => simp [(hrest c rfl).1]

/-- The digits of a positive number do not start with a zero. -/
theorem exists_cons_toDigits {n : Nat} (h : 0 < n) :
    ∃ c cs, Nat.toDigits 10 n = c :: cs ∧ c ≠ '0' := by
  induction n using Nat.strongRecOn with
  | ind n ih =>
    rw [Nat.toDigits_eq_if (by decide)]
    split
    · refine ⟨n.digitChar, [], rfl, ?_⟩
      rw [Ne, Nat.digitChar_eq_zero]
      omega
    · obtain ⟨c, cs, hc, hne⟩ := ih (n / 10) (by omega) (by omega)
      exact ⟨c, cs ++ [(n % 10).digitChar], by rw [hc]; rfl, hne⟩

theorem isDigit_of_mem_toDigits {n : Nat} : ∀ c ∈ Nat.toDigits 10 n, c.isDigit = true :=
  fun _ h => Nat.isDigit_of_mem_toDigits (by decide) (by decide) h

theorem exists_digit_cons (n : Nat) : ∃ c cs, Nat.toDigits 10 n = c :: cs ∧ c.isDigit = true := by
  obtain ⟨c, cs, hc⟩ := List.exists_cons_of_ne_nil (Nat.toDigits_ne_nil (n := n) (b := 10))
  exact ⟨c, cs, hc, isDigit_of_mem_toDigits (n := n) c (by rw [hc]; exact List.mem_cons_self)⟩

theorem ne_of_isDigit {c d : Char} (hc : c.isDigit = true) (hd : d.isDigit = false) : c ≠ d := by
  rintro rfl
  rw [hd] at hc
  contradiction

theorem readWhole?_toDigits (n : Nat) {rest : List Char} (h : EndsNumber rest) :
    readWhole? (Nat.toDigits 10 n ++ rest) = some (Nat.toDigits 10 n, rest) := by
  cases Nat.eq_zero_or_pos n with
  | inl hn =>
    subst hn
    rw [Nat.toDigits_zero]
    rfl
  | inr hn =>
    have hspan := spanDigits_append (isDigit_of_mem_toDigits (n := n)) h
    obtain ⟨c, cs, hc, hne⟩ := exists_cons_toDigits hn
    have hdigit : c.isDigit = true := isDigit_of_mem_toDigits (n := n) c (by rw [hc]; simp)
    rw [hc] at hspan ⊢
    rw [List.cons_append, readWhole?, if_neg hne, if_pos hdigit]
    exact congrArg some hspan

theorem readFraction_of_endsNumber {rest : List Char} (h : EndsNumber rest) :
    readFraction rest = ([], rest) := by
  unfold readFraction
  split
  · exact absurd rfl (h '.' rfl).2.1
  · rfl

theorem readExponent_of_endsNumber {rest : List Char} (h : EndsNumber rest) :
    readExponent rest = (none, rest) := by
  cases rest with
  | nil => rfl
  | cons c rest =>
    obtain ⟨-, -, he, hE⟩ := h c rfl
    show (if c = 'e' ∨ c = 'E' then _ else (none, c :: rest)) = _
    rw [if_neg (not_or.mpr ⟨he, hE⟩)]

/-- A sign and the digits of a number, as they are written. -/
def signedDigits (negative : Bool) (n : Nat) : List Char :=
  (if negative then ['-'] else []) ++ Nat.toDigits 10 n

theorem readNumeral?_signedDigits (negative : Bool) (n : Nat) {rest : List Char}
    (h : EndsNumber rest) :
    readNumeral? (signedDigits negative n ++ rest) =
      some (⟨negative, Nat.toDigits 10 n, [], none⟩, rest) := by
  have hwhole := readWhole?_toDigits n h
  unfold readNumeral? signedDigits
  cases negative with
  | true => simp [hwhole, readFraction_of_endsNumber h, readExponent_of_endsNumber h]
  | false =>
    obtain ⟨c, cs, hc, hdigit⟩ := exists_digit_cons n
    have hne : c ≠ '-' := ne_of_isDigit hdigit (by decide)
    rw [hc] at hwhole ⊢
    rw [List.cons_append] at hwhole
    simp [hne, hwhole, readFraction_of_endsNumber h, readExponent_of_endsNumber h]

/-- The value of a sign and digits. -/
def signedValue (negative : Bool) (n : Nat) : Int := if negative then -n else n

theorem integer_numeral (negative : Bool) (n : Nat) :
    Numeral.integer ⟨negative, Nat.toDigits 10 n, [], none⟩ = signedValue negative n := by
  simp only [Numeral.integer, natOfDigits, Nat.ofDigitChars_ten_toDigits, signedValue]

theorem value_of_integer {n : Numeral} {whole : Text.Integer} (hf : n.fraction = [])
    (he : n.exponent = none) (hn : n.integer = whole.toInt) : n.value = .ok (.int whole) := by
  rw [Numeral.value, hf, he, hn, Text.Integer.ofInt?_toInt]
  rfl

theorem exists_signedDigits (n : Text.Integer) :
    ∃ negative m, n.repr.toList = signedDigits negative m ∧ n.toInt = signedValue negative m := by
  rw [Text.Integer.repr, Int.repr_eq_if]
  split
  · refine ⟨false, n.toInt.toNat, ?_, ?_⟩
    · rw [Nat.repr_eq_ofList_toDigits, String.toList_ofList]
      rfl
    · simp [signedValue]
      omega
  · refine ⟨true, (-n.toInt).toNat, ?_, ?_⟩
    · rw [String.toList_append, Nat.repr_eq_ofList_toDigits, String.toList_ofList,
        String.toList_ofList]
      rfl
    · simp [signedValue]
      omega

/-- No name of a value starts like a number. -/
theorem find?_words_signedDigits (negative : Bool) (n : Nat) (rest : List Char) :
    words.find? (fun word => word.1.isPrefixOf (signedDigits negative n ++ rest)) = none := by
  obtain ⟨c, cs, hc, hdigit⟩ := exists_digit_cons n
  have hne : ∀ d : Char, d.isDigit = false → (d == c) = false := fun d hd =>
    beq_eq_false_iff_ne.mpr (ne_of_isDigit hdigit hd).symm
  rw [List.find?_eq_none]
  intro word hword
  rw [signedDigits, hc]
  simp only [words, List.mem_cons, List.not_mem_nil, or_false] at hword
  cases negative <;> rcases hword with rfl | rfl | rfl | rfl | rfl | rfl <;>
    simp [List.isPrefixOf, hne]

/-- Digits are read as a number up to where they end. -/
theorem readScalar_signedDigits (negative : Bool) (n : Nat) {rest : List Char}
    (h : EndsNumber rest) :
    readScalar (signedDigits negative n ++ rest) =
      (Numeral.value ⟨negative, Nat.toDigits 10 n, [], none⟩).map fun v => (v, rest) := by
  rw [readScalar, find?_words_signedDigits, readNumeral?_signedDigits _ _ h]

/-- An integer is read back from its written form. -/
theorem readScalar_repr (n : Text.Integer) {rest : List Char} (h : EndsNumber rest) :
    readScalar (n.repr.toList ++ rest) = .ok (.int n, rest) := by
  obtain ⟨negative, m, hn, hvalue⟩ := exists_signedDigits n
  rw [hn, readScalar_signedDigits negative m h,
    value_of_integer rfl rfl ((integer_numeral negative m).trans hvalue.symm)]
  rfl

end MarkupTree.Json
