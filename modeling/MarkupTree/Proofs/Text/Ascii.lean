import MarkupTree.Text.LetterCase

/-!
# Lower forms of ASCII text

Names are compared by the code points of their lower forms. The names in the tables of a schema are
ASCII: their lower forms can be read off their bytes, which are at hand without decoding.

Results:

* `toNat_toList`: the characters of an ASCII text are its bytes.
* `toUpper_of_isLower`, `toLower_of_isUpper`: small letters and capitals give each other back.
* `lowerCodes_of_ascii`: its lower form is its bytes with capitals folded.
* `lowerFrom_append`: the lower form of an ASCII text does not depend on what follows.
* `exists_lowerCodes_append`: so that of a longer text starts with it.
* `lowerCodes_append_lower`: so is that of a text that is put together from lower forms.
-/

namespace MarkupTree.Text

/-- The bytes of a text. -/
def bytes (s : String) : List Nat := s.toByteArray.data.toList.map UInt8.toNat

/-- Whether every byte of a text stands for a character of its own. -/
def isAscii (s : String) : Bool := (bytes s).all (· < 0x80)

/-- The byte of the small letter in place of that of a capital. -/
def foldByte (n : Nat) : Nat := if 65 ≤ n ∧ n ≤ 90 then n + 32 else n

/-- The bytes of a text with capitals folded. -/
def foldedBytes (s : String) : List Nat := (bytes s).map foldByte

/-- The code points of the lower form of a text. -/
def lowerCodes (s : String) : List Nat := (lowerChars s.toList).map Char.toNat

theorem lower_eq_iff {s t : String} : lower s = lower t ↔ lowerCodes s = lowerCodes t := by
  constructor
  · intro h
    rw [lowerCodes, lowerCodes, String.ofList_injective h]
  · intro h
    rw [lower, lower, (List.map_inj_right fun _ _ => Char.toNat_inj.mp).mp h]

theorem foldByte_lt {n : Nat} (h : n < 0x80) : foldByte n < 0x80 := by
  unfold foldByte
  split <;> omega

theorem foldByte_foldByte (n : Nat) : foldByte (foldByte n) = foldByte n := by
  unfold foldByte
  split
  · rw [if_neg (by omega)]
  · rfl

/-! ## Bytes of characters -/

theorem bytes_eq_flatMap (s : String) :
    bytes s = (s.toList.flatMap String.utf8EncodeChar).map UInt8.toNat := by
  rw [bytes, ← String.utf8Encode_toList, List.utf8Encode, List.data_toByteArray]

theorem le_toNat_or {x y : UInt8} (h : 0x80 ≤ y.toNat) : ¬ (x ||| y).toNat < 0x80 := by
  rw [UInt8.toNat_or]
  exact Nat.not_lt.mpr (Nat.le_trans h Nat.right_le_or)

/-- A character whose bytes are all ASCII is its only byte. -/
theorem toNat_utf8EncodeChar {c : Char} (h : ∀ b ∈ String.utf8EncodeChar c, b.toNat < 0x80) :
    (String.utf8EncodeChar c).map UInt8.toNat = [c.toNat] ∧ c.toNat < 0x80 := by
  rcases c.utf8Size_eq with hc | hc | hc | hc
  · have hv : c.toNat < 0x80 := by
      have := Char.utf8Size_eq_one_iff.mp hc
      rw [UInt32.le_iff_toNat_le] at this
      exact Nat.lt_succ_of_le this
    rw [String.utf8EncodeChar_eq_singleton hc]
    refine ⟨?_, hv⟩
    simp only [List.map_cons, List.map_nil, List.cons.injEq, and_true]
    rw [UInt32.toNat_toUInt8]
    exact Nat.mod_eq_of_lt (Nat.lt_trans hv (by decide))
  · rw [String.utf8EncodeChar_eq_cons_cons hc] at h
    exact absurd (h _ List.mem_cons_self) (le_toNat_or (by decide))
  · rw [String.utf8EncodeChar_eq_cons_cons_cons hc] at h
    exact absurd (h _ List.mem_cons_self) (le_toNat_or (by decide))
  · rw [String.utf8EncodeChar_eq_cons_cons_cons_cons hc] at h
    exact absurd (h _ List.mem_cons_self) (le_toNat_or (by decide))

theorem toNat_flatMap_utf8EncodeChar {cs : List Char}
    (h : ∀ b ∈ cs.flatMap String.utf8EncodeChar, b.toNat < 0x80) :
    (cs.flatMap String.utf8EncodeChar).map UInt8.toNat = cs.map Char.toNat ∧
      ∀ c ∈ cs, c.toNat < 0x80 := by
  induction cs with
  | nil => simp
  | cons c rest ih =>
    rw [List.flatMap_cons] at h ⊢
    obtain ⟨hc, hlt⟩ := toNat_utf8EncodeChar fun b hb => h b (List.mem_append_left _ hb)
    obtain ⟨hr, hlts⟩ := ih fun b hb => h b (List.mem_append_right _ hb)
    refine ⟨?_, ?_⟩
    · rw [List.map_append, hc, hr, List.map_cons, List.singleton_append]
    · intro d hd
      rcases List.mem_cons.mp hd with rfl | hd
      · exact hlt
      · exact hlts d hd

/-! ## ASCII texts -/

theorem toNat_toList {s : String} (h : isAscii s = true) :
    s.toList.map Char.toNat = bytes s ∧ ∀ c ∈ s.toList, c.toNat < 0x80 := by
  have hb : ∀ b ∈ s.toList.flatMap String.utf8EncodeChar, b.toNat < 0x80 := by
    intro b hb
    have := List.all_eq_true.mp h b.toNat (by rw [bytes_eq_flatMap]; exact List.mem_map_of_mem hb)
    simpa using this
  obtain ⟨he, hlt⟩ := toNat_flatMap_utf8EncodeChar hb
  exact ⟨by rw [bytes_eq_flatMap, he], hlt⟩

/-! ## Letters -/

/-- What holds of the first code points holds of the ASCII characters. -/
theorem forall_ascii {P : Char → Prop} (h : ∀ n < 0x80, P (Char.ofNat n)) {c : Char}
    (hc : c.toNat < 0x80) : P c := by
  rw [← Char.ofNat_toNat c]
  exact h c.toNat hc

theorem toNat_lt_of_isUpper {c : Char} (h : c.isUpper = true) : c.toNat < 0x80 := by
  have hbounds : 'A'.val ≤ c.val ∧ c.val ≤ 'Z'.val := of_decide_eq_true h
  exact Nat.lt_of_le_of_lt hbounds.2 (by decide)

theorem toNat_lt_of_isLower {c : Char} (h : c.isLower = true) : c.toNat < 0x80 := by
  have hbounds : (decide ('a'.val ≤ c.val) && decide (c.val ≤ 'z'.val)) = true := h
  rw [Bool.and_eq_true, decide_eq_true_eq, decide_eq_true_eq] at hbounds
  exact Nat.lt_of_le_of_lt hbounds.2 (by decide)

theorem toUpper_eq_self {c : Char} (h : c.isLower = false) : c.toUpper = c := by
  refine dif_neg fun hc => ?_
  have hbounds : (decide ('a'.val ≤ c.val) && decide (c.val ≤ 'z'.val)) = false := h
  rw [decide_eq_true hc.1, decide_eq_true hc.2] at hbounds
  contradiction

theorem toLower_eq_self {c : Char} (h : c.isUpper = false) : c.toLower = c :=
  dif_neg (of_decide_eq_false h)

/-- A small letter has a capital that gives it back. -/
theorem toUpper_of_isLower {c : Char} (h : c.isLower = true) :
    c.toUpper.isUpper = true ∧ c.toUpper.toLower = c :=
  forall_ascii (P := fun c => c.isLower = true → c.toUpper.isUpper = true ∧ c.toUpper.toLower = c)
    (by decide) (toNat_lt_of_isLower h) h

/-- A capital has a small letter that gives it back. -/
theorem toLower_of_isUpper {c : Char} (h : c.isUpper = true) :
    c.toLower.isLower = true ∧ c.toLower.toUpper = c :=
  forall_ascii (P := fun c => c.isUpper = true → c.toLower.isLower = true ∧ c.toLower.toUpper = c)
    (by decide) (toNat_lt_of_isUpper h) h

theorem isLower_eq_false_of_isUpper {c : Char} (h : c.isUpper = true) : c.isLower = false :=
  forall_ascii (P := fun c => c.isUpper = true → c.isLower = false) (by decide)
    (toNat_lt_of_isUpper h) h

theorem isLower_toUpper (c : Char) : c.toUpper.isLower = false := by
  cases h : c.isLower with
  | true => exact isLower_eq_false_of_isUpper (toUpper_of_isLower h).1
  | false => rwa [toUpper_eq_self h]

theorem isUpper_toLower (c : Char) : c.toLower.isUpper = false := by
  cases h : c.isUpper with
  | true =>
    refine Bool.eq_false_iff.mpr fun hu => ?_
    have hl := (toLower_of_isUpper h).1
    rw [isLower_eq_false_of_isUpper hu] at hl
    contradiction
  | false => rwa [toLower_eq_self h]

theorem toNat_toLower {c : Char} (h : c.toNat < 0x80) : c.toLower.toNat = foldByte c.toNat :=
  forall_ascii (P := fun c => c.toLower.toNat = foldByte c.toNat) (by decide) h

/-! ## Lower forms -/

theorem lowerCodes_of_ascii {s : String} (h : isAscii s = true) :
    lowerCodes s = foldedBytes s := by
  obtain ⟨he, hlt⟩ := toNat_toList h
  rw [lowerCodes, lowerChars_of_ascii hlt, foldedBytes, ← he, List.map_map, List.map_map]
  apply List.map_congr_left
  intro c hc
  exact toNat_toLower (hlt c hc)

/-- The characters after an ASCII text do not change its lower form. -/
theorem lowerFrom_append {cs : List Char} (h : ∀ c ∈ cs, c.toNat < 0x80) (inWord : Bool)
    (ds : List Char) :
    ∃ inWord', lowerFrom inWord (cs ++ ds) = cs.map Char.toLower ++ lowerFrom inWord' ds := by
  induction cs generalizing inWord with
  | nil => exact ⟨inWord, rfl⟩
  | cons c rest ih =>
    have hc : c.toNat < 0x80 := h c List.mem_cons_self
    have hs : c ≠ 'Σ' := by
      rintro rfl
      exact absurd hc (by decide)
    obtain ⟨inWord', hr⟩ := ih (fun d hd => h d (List.mem_cons_of_mem c hd))
      (if isCaseIgnorable c then inWord else isCased c)
    refine ⟨inWord', ?_⟩
    rw [List.cons_append, lowerFrom, hr, if_neg hs, lowerChar_of_ascii hc]
    rfl

/-- The lower form of a text that starts with an ASCII text starts with that of the ASCII text. -/
theorem exists_lowerCodes_append {start : String} (hs : isAscii start = true) (s : String) :
    ∃ inWord, lowerCodes (start ++ s) =
      foldedBytes start ++ (lowerFrom inWord s.toList).map Char.toNat := by
  have hlt := (toNat_toList hs).2
  obtain ⟨inWord, h⟩ := lowerFrom_append hlt false s.toList
  refine ⟨inWord, ?_⟩
  rw [lowerCodes, lowerChars, String.toList_append, h, List.map_append,
    ← lowerFrom_of_ascii hlt false, ← lowerChars, ← lowerCodes, lowerCodes_of_ascii hs]

theorem lowerChar_ne_nil (c : Char) : lowerChar c ≠ [] := by
  unfold lowerChar
  split
  · exact List.cons_ne_nil _ _
  · split
    · exact List.cons_ne_nil _ _
    · split <;> exact List.cons_ne_nil _ _

/-- No character vanishes in the lower form. -/
theorem lowerFrom_ne_nil {cs : List Char} (h : cs ≠ []) (inWord : Bool) :
    lowerFrom inWord cs ≠ [] := by
  obtain ⟨c, rest, rfl⟩ := List.exists_cons_of_ne_nil h
  rw [lowerFrom]
  split
  · exact List.cons_ne_nil _ _
  · exact List.append_ne_nil_of_left_ne_nil (lowerChar_ne_nil c) _

/-- An ASCII character that is no capital stays in the lower form. -/
theorem mem_lowerFrom {c : Char} (hlt : c.toNat < 0x80) (hc : c.toLower = c) {cs : List Char}
    (h : c ∈ cs) (inWord : Bool) : c ∈ lowerFrom inWord cs := by
  induction cs generalizing inWord with
  | nil => exact absurd h List.not_mem_nil
  | cons d rest ih =>
    rw [lowerFrom, List.mem_append]
    rcases List.mem_cons.mp h with rfl | h
    · have hs : c ≠ 'Σ' := by
        rintro rfl
        exact absurd hlt (by decide)
      rw [if_neg hs, lowerChar_of_ascii hlt, hc]
      exact .inl List.mem_cons_self
    · exact .inr (ih h _)

/-- Lower-casing again what is already in lower case changes nothing. -/
theorem lowerCodes_append_lower {start : String} (hs : isAscii start = true) {cs : List Char}
    (hc : ∀ c ∈ cs, c.toNat < 0x80) :
    lowerCodes (start ++ lower (String.ofList cs)) =
      foldedBytes start ++ cs.map fun c => foldByte c.toNat := by
  have hl : ∀ c ∈ cs.map Char.toLower, c.toNat < 0x80 := by
    intro c hm
    obtain ⟨d, hd, rfl⟩ := List.mem_map.mp hm
    rw [toNat_toLower (hc d hd)]
    exact foldByte_lt (hc d hd)
  have ha : ∀ c ∈ start.toList ++ cs.map Char.toLower, c.toNat < 0x80 := by
    intro c hm
    rcases List.mem_append.mp hm with hm | hm
    · exact (toNat_toList hs).2 c hm
    · exact hl c hm
  rw [lowerCodes, String.toList_append, lower, String.toList_ofList, String.toList_ofList,
    lowerChars_of_ascii hc, lowerChars_of_ascii ha, List.map_append, List.map_append,
    ← lowerChars_of_ascii (toNat_toList hs).2, ← lowerCodes, lowerCodes_of_ascii hs, List.map_map,
    List.map_map]
  congr 1
  apply List.map_congr_left
  intro c hm
  have hcl := hl _ (List.mem_map_of_mem hm)
  rw [Function.comp_apply, Function.comp_apply, toNat_toLower hcl, toNat_toLower (hc c hm),
    foldByte_foldByte]

theorem lowerCodes_lower {s : String} (h : isAscii s = true) :
    lowerCodes (lower s) = foldedBytes s := by
  obtain ⟨he, hlt⟩ := toNat_toList h
  have hempty : lowerCodes ("" ++ lower (String.ofList s.toList)) = _ :=
    lowerCodes_append_lower (by decide) hlt
  rw [String.empty_append, String.ofList_toList] at hempty
  rw [hempty, foldedBytes, foldedBytes, ← he, List.map_map]
  rfl

end MarkupTree.Text
