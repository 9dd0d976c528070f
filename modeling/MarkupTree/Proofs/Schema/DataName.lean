import MarkupTree.Proofs.Schema.Lookup

/-!
# The two forms of a data name

A data attribute and its property are written in two ways: where one has a dash and a small letter,
the other has a capital. Each form gives the other back, unless a table has the property.

Results:

* `dash_capitalize`, `capitalize_dash`: the two replacements undo each other.
* `IsAttributeRest.isPropertyRest`, `IsPropertyRest.exists_attributeRest`: the two forms correspond.
* `data_mem_keys_iff`: the only data name in a table is that of a property of SVG.
* `find_of_dataAttribute`: from the attribute to the property and back.
* `find_of_dataProperty`: from the property to the attribute and back.
-/

namespace MarkupTree

namespace Schema.DataName

/-! ## Letters -/

theorem ne_dash_of_isUpper {c : Char} (h : c.isUpper = true) : c ≠ '-' := by
  rintro rfl
  exact absurd h (by decide)

theorem toLower_toUpper {c : Char} (h : c.isUpper = false) : c.toUpper.toLower = c := by
  cases hl : c.isLower with
  | true => exact (Text.toUpper_of_isLower hl).2
  | false => rw [Text.toUpper_eq_self hl, Text.toLower_eq_self h]

theorem toUpper_toLower {c : Char} (h : c.isLower = false) : c.toLower.toUpper = c := by
  cases hu : c.isUpper with
  | true => exact (Text.toLower_of_isUpper hu).2
  | false => rw [Text.toLower_eq_self hu, Text.toUpper_eq_self h]

theorem isNameChar_toUpper {c : Char} (h : isNameChar c = true) : isNameChar c.toUpper = true := by
  by_cases hl : c.isLower = true
  · exact Text.forall_ascii (P := fun c => c.isLower = true → isNameChar c.toUpper = true)
      (by decide) (Text.toNat_lt_of_isLower hl) hl
  · rwa [Text.toUpper_eq_self (Bool.eq_false_iff.mpr hl)]

theorem toUpper_ne_dash {c : Char} (h : c ≠ '-') : c.toUpper ≠ '-' := by
  by_cases hl : c.isLower = true
  · exact ne_dash_of_isUpper (Text.toUpper_of_isLower hl).1
  · rwa [Text.toUpper_eq_self (Bool.eq_false_iff.mpr hl)]

theorem upperChar_of_isLower {c : Char} (h : c.isLower = true) :
    Text.upperChar c = [c.toUpper] := by
  rw [Text.upperChar, if_pos (Text.toNat_lt_of_isLower h)]

/-! ## Dashes and capitals -/

theorem dash_cons_of_isUpper {c : Char} (h : c.isUpper = true) (cs : List Char) :
    dash (c :: cs) = '-' :: c.toLower :: dash cs := by
  rw [dash, List.flatMap_cons, if_pos h]
  rfl

theorem dash_cons_of_not_isUpper {c : Char} (h : c.isUpper = false) (cs : List Char) :
    dash (c :: cs) = c :: dash cs := by
  rw [dash, List.flatMap_cons, if_neg (by simp [h])]
  rfl

theorem capitalize_cons {c : Char} (h : c ≠ '-') (cs : List Char) :
    capitalize (c :: cs) = c :: capitalize cs := by
  rw [capitalize]
  rintro d rest rfl
  exact absurd rfl h

theorem capitalize_dash_cons {cs : List Char} (h : ∀ c ∈ cs.head?, c.isLower = false) :
    capitalize ('-' :: cs) = '-' :: capitalize cs := by
  cases cs with
  | nil => rfl
  | cons c rest => rw [capitalize, if_neg (by simp [h c rfl])]

theorem capitalize_dash_letter {c : Char} (h : c.isLower = true) (cs : List Char) :
    capitalize ('-' :: c :: cs) = c.toUpper :: capitalize cs := by
  rw [capitalize, if_pos h]

theorem head_dash {cs : List Char} (h : ∀ c ∈ cs.head?, c.isLower = false) :
    ∀ c ∈ (dash cs).head?, c.isLower = false := by
  cases cs with
  | nil => exact h
  | cons c rest =>
    cases hu : c.isUpper with
    | true =>
      rw [dash_cons_of_isUpper hu]
      rintro d ⟨⟩
      decide
    | false =>
      rw [dash_cons_of_not_isUpper hu]
      exact h

theorem head_capitalize {cs : List Char} (h : ∀ c ∈ cs.head?, c.isLower = false) :
    ∀ c ∈ (capitalize cs).head?, c.isLower = false := by
  fun_cases capitalize cs with
  | case1 c rest hl =>
    rintro d ⟨⟩
    exact Text.isLower_toUpper c
  | case2 c rest hl => exact h
  | case3 c rest => exact h
  | case4 => exact h

theorem hasDashedLetter_cons {c : Char} (h : c ≠ '-') (cs : List Char) :
    hasDashedLetter (c :: cs) = hasDashedLetter cs := by
  rw [hasDashedLetter]
  rintro d rest rfl
  exact absurd rfl h

theorem hasDashedLetter_dash_cons {cs : List Char} : hasDashedLetter ('-' :: cs) = false ↔
    (∀ c ∈ cs.head?, c.isLower = false) ∧ hasDashedLetter cs = false := by
  cases cs with
  | nil => simp [hasDashedLetter]
  | cons c rest => simp [hasDashedLetter]

/-- The search finds a dash that stands before a small letter wherever it is. -/
theorem hasDashedLetter_eq_false_iff {cs : List Char} :
    hasDashedLetter cs = false ↔ ∀ c, c.isLower = true → ¬ ['-', c] <:+: cs := by
  induction cs with
  | nil => simp [hasDashedLetter]
  | cons d rest ih =>
    simp only [List.infix_cons_iff, List.cons_prefix_cons, List.singleton_prefix_iff_head?_eq_some,
      not_or]
    -- only at a dash does the search look at what comes next
    by_cases hd : d = '-'
    · subst hd
      rw [hasDashedLetter_dash_cons, ih]
      constructor
      · rintro ⟨hhead, hrest⟩ c hc
        exact ⟨fun hp => by simp [hhead c hp.2] at hc, hrest c hc⟩
      · intro h
        refine ⟨fun c hc => ?_, fun c hc => (h c hc).2⟩
        by_contra hl
        rw [Bool.not_eq_false] at hl
        exact (h c hl).1 ⟨rfl, hc⟩
    · rw [hasDashedLetter_cons hd, ih]
      simp [Ne.symm hd]

/-- Capitalizing leaves no dash before a small letter. -/
theorem hasDashedLetter_capitalize (cs : List Char) : hasDashedLetter (capitalize cs) = false := by
  fun_induction capitalize cs with
  | case1 c rest hl ih =>
    -- the capital takes the place of the dash, too, so that no dash comes before what follows
    rw [hasDashedLetter_cons (ne_dash_of_isUpper (Text.toUpper_of_isLower hl).1), ih]
  | case2 c rest hl ih =>
    rw [hasDashedLetter_dash_cons]
    refine ⟨head_capitalize ?_, ih⟩
    rintro d ⟨⟩
    exact Bool.eq_false_iff.mpr hl
  | case3 c rest hne ih =>
    cases rest with
    | nil => simp [capitalize, hasDashedLetter]
    | cons d rest => rw [hasDashedLetter_cons fun e => hne d rest e rfl, ih]
  | case4 => rfl

/-- Where no capitals stand, dashing undoes capitalizing. -/
theorem dash_capitalize {cs : List Char} (h : ∀ c ∈ cs, c.isUpper = false) :
    dash (capitalize cs) = cs := by
  fun_induction capitalize cs with
  | case1 c rest hl ih =>
    have hc := h c (by simp)
    have hrest : ∀ d ∈ rest, d.isUpper = false := fun d hd => h d (by simp [hd])
    rw [dash_cons_of_isUpper (Text.toUpper_of_isLower hl).1, toLower_toUpper hc, ih hrest]
  | case2 c rest hl ih =>
    rw [dash_cons_of_not_isUpper (by decide), ih fun d hd => h d (List.mem_cons_of_mem _ hd)]
  | case3 c rest hne ih =>
    rw [dash_cons_of_not_isUpper (h c List.mem_cons_self),
      ih fun d hd => h d (List.mem_cons_of_mem _ hd)]
  | case4 => rfl

/-- Where no dashed letters stand, capitalizing undoes dashing. -/
theorem capitalize_dash {cs : List Char} (h : hasDashedLetter cs = false) :
    capitalize (dash cs) = cs := by
  induction cs with
  | nil => rfl
  | cons c rest ih =>
    by_cases hd : c = '-'
    · subst hd
      obtain ⟨hhead, hrest⟩ := hasDashedLetter_dash_cons.mp h
      rw [dash_cons_of_not_isUpper (by decide), capitalize_dash_cons (head_dash hhead), ih hrest]
    · rw [hasDashedLetter_cons hd] at h
      cases hu : c.isUpper with
      | true =>
        rw [dash_cons_of_isUpper hu, capitalize_dash_letter (Text.toLower_of_isUpper hu).1,
          (Text.toLower_of_isUpper hu).2, ih h]
      | false => rw [dash_cons_of_not_isUpper hu, capitalize_cons hd, ih h]

/-! ## First characters -/

/-- Where the first character is a small letter or its own upper form, raising it is what raising an
ASCII letter is. -/
theorem upperChar_eq_toUpper {c : Char} (h : c.isLower = true ∨ Text.upperChar c = [c]) :
    Text.upperChar c = [c.toUpper] := by
  cases hl : c.isLower with
  | true => exact upperChar_of_isLower hl
  | false =>
    rw [h.resolve_left (by simp [hl]), Text.toUpper_eq_self hl]

theorem isLower_eq_false_of_upperChar {c : Char} (h : Text.upperChar c = [c]) :
    c.isLower = false := by
  by_contra hl
  rw [Bool.not_eq_false] at hl
  have hu := (Text.toUpper_of_isLower hl).1
  rw [upperChar_of_isLower hl, List.singleton_inj] at h
  rw [h] at hu
  rw [Text.isLower_eq_false_of_isUpper hu] at hl
  contradiction

theorem upperChar_toUpper {c : Char} (h : c.isLower = true ∨ Text.upperChar c = [c]) :
    Text.upperChar c.toUpper = [c.toUpper] := by
  cases hl : c.isLower with
  | true =>
    have hu := (Text.toUpper_of_isLower hl).1
    rw [Text.upperChar, if_pos (Text.toNat_lt_of_isUpper hu), 
      Text.toUpper_eq_self (Text.isLower_toUpper c)]
  | false =>
    rw [Text.toUpper_eq_self hl]
    exact h.resolve_left (by simp [hl])

theorem ensureDash_dash_cons {c : Char} (h : c ≠ '-') (cs : List Char) :
    ensureDash (dash (c :: cs)) = '-' :: c.toLower :: dash cs := by
  cases hu : c.isUpper with
  | true =>
    rw [dash_cons_of_isUpper hu]
    rfl
  | false =>
    rw [dash_cons_of_not_isUpper hu, Text.toLower_eq_self hu, ensureDash]
    rintro ds hds
    exact absurd (List.cons.inj hds).1 h

theorem isNameChar_of_mem_capitalize {cs : List Char} (h : ∀ c ∈ cs, isNameChar c = true) :
    ∀ c ∈ capitalize cs, isNameChar c = true := by
  fun_induction capitalize cs with
  | case1 c rest hl ih =>
    simp only [List.forall_mem_cons] at h ⊢
    exact ⟨isNameChar_toUpper h.2.1, ih h.2.2⟩
  | case2 c rest hl ih =>
    rw [List.forall_mem_cons] at h ⊢
    exact ⟨h.1, ih h.2⟩
  | case3 c rest hne ih =>
    rw [List.forall_mem_cons] at h ⊢
    exact ⟨h.1, ih h.2⟩
  | case4 => exact h

theorem isUpper_eq_false_of_mem_dash {cs : List Char} {d : Char} (h : d ∈ dash cs) :
    d.isUpper = false := by
  obtain ⟨c, -, hd⟩ := List.mem_flatMap.mp h
  split at hd
  · rcases List.mem_cons.mp hd with rfl | hd
    · decide
    · rw [List.mem_singleton.mp hd]
      exact Text.isUpper_toLower c
  · rename_i hu
    rw [List.mem_singleton.mp hd]
    exact Bool.eq_false_iff.mpr hu

/-! ## The two forms -/

/-- What may follow `data-` in the name of an attribute that its property gives back: name
characters without capitals, of which the first is no dash and has an upper form of one character
that can be undone. -/
@[mk_iff]
structure IsAttributeRest (cs : List Char) : Prop where
  ne_nil : cs ≠ []
  name_chars : ∀ c ∈ cs, isNameChar c = true
  no_capitals : ∀ c ∈ cs, c.isUpper = false
  head_ne : cs.head? ≠ some '-'
  head_upper : ∀ c ∈ cs.head?, c.isLower = true ∨ Text.upperChar c = [c]

/-- What may follow `data` in the name of a property that its attribute gives back: name characters
without a dash before a small letter, of which the first is no dash and its own upper form. -/
@[mk_iff]
structure IsPropertyRest (cs : List Char) : Prop where
  ne_nil : cs ≠ []
  name_chars : ∀ c ∈ cs, isNameChar c = true
  no_dashed : ∀ c, c.isLower = true → ¬ ['-', c] <:+: cs
  head_ne : cs.head? ≠ some '-'
  head_upper : ∀ c ∈ cs.head?, Text.upperChar c = [c]

instance (cs : List Char) : Decidable (IsAttributeRest cs) :=
  decidable_of_iff (cs ≠ [] ∧ cs.all isNameChar ∧ cs.all (!·.isUpper) ∧ cs.head? ≠ some '-' ∧
    cs.head?.all fun c => c.isLower || Text.upperChar c == [c])
    (by simp [isAttributeRest_iff, Option.all_eq_true])

instance (cs : List Char) : Decidable (IsPropertyRest cs) :=
  decidable_of_iff (cs ≠ [] ∧ cs.all isNameChar ∧ hasDashedLetter cs = false ∧
    cs.head? ≠ some '-' ∧ cs.head?.all fun c => Text.upperChar c == [c])
    (by simp [isPropertyRest_iff, hasDashedLetter_eq_false_iff, Option.all_eq_true])

/-- The property of such an attribute is such a property, and gives the attribute back. -/
theorem IsAttributeRest.isPropertyRest {cs : List Char} (h : IsAttributeRest cs) :
    IsPropertyRest (raiseFirst (capitalize cs)) ∧
      ensureDash (dash (raiseFirst (capitalize cs))) = '-' :: cs := by
  obtain ⟨c, rest, rfl⟩ := List.exists_cons_of_ne_nil h.ne_nil
  have hne : c ≠ '-' := fun e => h.head_ne (congrArg some e)
  have hname := List.forall_mem_cons.mp h.name_chars
  have hlow := List.forall_mem_cons.mp h.no_capitals
  have hup := h.head_upper c rfl
  have hraise : raiseFirst (capitalize (c :: rest)) = c.toUpper :: capitalize rest := by
    rw [capitalize_cons hne, raiseFirst, upperChar_eq_toUpper hup]
    rfl
  rw [hraise]
  constructor
  · exact {
      ne_nil := List.cons_ne_nil _ _
      name_chars := List.forall_mem_cons.mpr
        ⟨isNameChar_toUpper hname.1, isNameChar_of_mem_capitalize hname.2⟩
      no_dashed := by
        rw [← hasDashedLetter_eq_false_iff, hasDashedLetter_cons (toUpper_ne_dash hne)]
        exact hasDashedLetter_capitalize rest
      head_ne := fun e => toUpper_ne_dash hne (Option.some.inj e)
      head_upper := by
        rintro d ⟨⟩
        exact upperChar_toUpper hup }
  · rw [ensureDash_dash_cons (toUpper_ne_dash hne), toLower_toUpper hlow.1, dash_capitalize hlow.2]

/-- The attribute of such a property is such an attribute, and gives the property back. -/
theorem IsPropertyRest.exists_attributeRest {cs : List Char} (h : IsPropertyRest cs) :
    ∃ ds, IsAttributeRest ds ∧ ensureDash (dash cs) = '-' :: ds ∧
      raiseFirst (capitalize ds) = cs := by
  obtain ⟨c, rest, rfl⟩ := List.exists_cons_of_ne_nil h.ne_nil
  have hne : c ≠ '-' := fun e => h.head_ne (congrArg some e)
  have hname := List.forall_mem_cons.mp h.name_chars
  have hown := h.head_upper c rfl
  have hc : c.toLower.toUpper = c := toUpper_toLower (isLower_eq_false_of_upperChar hown)
  have hne' : c.toLower ≠ '-' := by
    intro e
    rw [e] at hc
    exact hne hc.symm
  have hlow : (c.toLower.isLower = true ∨ Text.upperChar c.toLower = [c.toLower]) ∧
      isNameChar c.toLower = true := by
    cases hu : c.isUpper with
    | true => exact ⟨Or.inl (Text.toLower_of_isUpper hu).1, isNameChar_toLower hu⟩
    | false =>
      rw [Text.toLower_eq_self hu]
      exact ⟨Or.inr hown, hname.1⟩
  have hrest : hasDashedLetter rest = false := by
    rw [← hasDashedLetter_cons hne, hasDashedLetter_eq_false_iff]
    exact h.no_dashed
  refine ⟨c.toLower :: dash rest, ?_, ensureDash_dash_cons hne rest, ?_⟩
  · exact {
      ne_nil := List.cons_ne_nil _ _
      name_chars := List.forall_mem_cons.mpr
        ⟨hlow.2, fun _ => isNameChar_of_mem_dash hname.2⟩
      no_capitals := List.forall_mem_cons.mpr
        ⟨Text.isUpper_toLower c, fun _ => isUpper_eq_false_of_mem_dash⟩
      head_ne := fun e => hne' (Option.some.inj e)
      head_upper := by
        rintro d ⟨⟩
        exact hlow.1 }
  · rw [capitalize_cons hne', capitalize_dash hrest, raiseFirst, upperChar_eq_toUpper hlow.1, hc]
    rfl

/-! ## Names -/

theorem IsPropertyRest.isRest {cs : List Char} (h : IsPropertyRest cs) : isRest cs = true :=
  isRest_iff.mpr ⟨cs, h.ne_nil, h.name_chars, Or.inl rfl⟩

theorem IsAttributeRest.isRest {cs : List Char} (h : IsAttributeRest cs) :
    DataName.isRest ('-' :: cs) = true :=
  isRest_cons_dash (isRest_iff.mpr ⟨cs, h.ne_nil, h.name_chars, Or.inl rfl⟩)

theorem propertyName_eq (rest : List Char) :
    propertyName rest = "data" ++ String.ofList (raiseFirst (capitalize rest)) := by
  unfold propertyName
  rw [String.ofList_append, String.ofList_toList]

theorem unknown_dataAttribute {s : String} (h : IsAttributeRest s.toList) :
    unknown ("data-" ++ s) =
      { propertyName := "data" ++ String.ofList (raiseFirst (capitalize s.toList)),
        attributeName := "data-" ++ s, defined := true } := by
  rw [unknown_data_dash h.isRest, propertyName_eq]

theorem unknown_dataProperty {s : String} (h : IsPropertyRest s.toList) {ds : List Char}
    (hds : ensureDash (dash s.toList) = '-' :: ds) :
    unknown ("data" ++ s) =
      { propertyName := "data" ++ s, attributeName := "data-" ++ String.ofList ds,
        defined := true } := by
  have hr : rest? ("data" ++ s).toList = some s.toList := by
    rw [String.toList_append]
    exact rest?_data h.isRest
  obtain ⟨ds', hds', ha⟩ := exists_attributeName_eq
    (hasDashedLetter_eq_false_iff.mpr h.no_dashed) ("data" ++ s)
  obtain rfl : ds' = ds := (List.cons.inj (hds'.symm.trans hds)).2
  rw [unknown_of_rest? hr fun cs e => h.head_ne (by rw [e]; rfl), ha]

end Schema.DataName

/-! ## Look-ups -/

namespace Command.Space

open Schema Schema.DataName

theorem exists_datatype : ∃ info ∈ svg.infos, info.attributeName = "datatype" := by
  have hm : ("dataType", []) ∈ Table.svgProperties ++ Table.eventProperties := by decide +kernel
  refine ⟨_, List.mem_flatMap.mpr ⟨svg.ownDefinition, ?_, List.mem_map_of_mem hm⟩, ?_⟩
  · simp
  · decide +kernel

theorem lower_datatype : Text.lower "datatype" = "datatype" := by decide

theorem answersTo_datatype {info : Info} (h : info.attributeName = "datatype") :
    info.answersTo "datatype" = true := by
  have ha := info.answersTo_attribute
  rwa [h, lower_datatype] at ha

theorem info_datatype {name : String} (h : Text.lower name = "datatype") :
    (svg.info name).attributeName = "datatype" := by
  obtain ⟨info, hi, ha⟩ := exists_datatype
  rw [(info_eq_iff hi).mpr (h ▸ answersTo_datatype ha), ha]

/-- A name that starts with `data` and goes on stands in no table of HTML, and in those of SVG only
as the property `dataType`. -/
theorem data_mem_keys_iff (space : Space) {s : String} (hs : s.toList ≠ []) :
    Text.lower ("data" ++ s) ∈ Fields.keys space.schema.aliases ↔
      space = svg ∧ Text.lower ("data" ++ s) = "datatype" := by
  constructor
  · intro hm
    obtain ⟨inWord, h⟩ := Text.exists_lowerCodes_append (by decide : Text.isAscii "data" = true) s
    have hd : (Text.lowerCodes ("data" ++ s)).take 4 = [100, 97, 116, 97] := by
      rw [h, List.take_append_of_le_length (by decide)]
      decide
    obtain ⟨hi, ha⟩ := info_of_mem hm
    rcases eq_of_mem_codes (answersTo_mem_codes hi ha) hd with hl | ⟨rfl, hc⟩
    · have hpos := List.length_pos_iff.mpr (Text.lowerFrom_ne_nil hs inWord)
      have hdata : (Text.foldedBytes "data").length = 4 := by decide
      rw [h, List.length_append, List.length_map, hdata] at hl
      omega
    · refine ⟨rfl, ?_⟩
      rw [← lower_datatype, Text.lower_eq_iff, hc, Text.lowerCodes_of_ascii (by decide)]
  · rintro ⟨rfl, h⟩
    obtain ⟨info, hi, ha⟩ := exists_datatype
    have hl := svg.builtFrom.lookup_aliases_of_mem svg.unambiguous hi (answersTo_datatype ha)
    rw [h]
    exact List.mem_map_of_mem (Fields.mem_of_lookup_eq_some hl)

/-- From a data attribute to its property and back: the attribute has its own name, and so has the
attribute that is found for its property, but that the property `dataType` of SVG, in any letter
case, has an attribute of its own. -/
theorem find_of_dataAttribute (space : Space) {s : String} (h : IsAttributeRest s.toList) :
    ∃ info again, space.schema.find ("data-" ++ s) = .ok info ∧
      info.attributeName = "data-" ++ s ∧ space.schema.find info.propertyName = .ok again ∧
      again.attributeName =
        if space = svg ∧ Text.lower info.propertyName = "datatype" then "datatype"
        else "data-" ++ s := by
  obtain ⟨hproperty, hback⟩ := h.isPropertyRest
  rw [← String.toList_ofList (l := raiseFirst _)] at hproperty hback
  refine ⟨_, _, space.find_data_dash s, ?_, space.find_eq_info _, ?_⟩
  · rw [unknown_dataAttribute h]
  · rw [unknown_dataAttribute h]
    -- the property stands in a table or not; if not, its attribute is made by the rule
    have hkey := data_mem_keys_iff space hproperty.ne_nil
    split
    · rename_i hd
      obtain rfl := hd.1
      exact info_datatype hd.2
    · rename_i hd
      rw [info_of_not_mem (mt hkey.mp hd), unknown_dataProperty hproperty hback,
        String.ofList_toList]

theorem find_of_dataAttribute_accented :
    IsAttributeRest "x-é--y.1".toList ∧
      ∃ info again, svg.schema.find ("data-" ++ "x-é--y.1") = .ok info ∧
        info.attributeName = "data-" ++ "x-é--y.1" ∧
        svg.schema.find info.propertyName = .ok again ∧
        again.attributeName =
          if svg = svg ∧ Text.lower info.propertyName = "datatype" then "datatype"
          else "data-" ++ "x-é--y.1" := by
  have h : IsAttributeRest "x-é--y.1".toList := by decide +kernel
  exact ⟨h, svg.find_of_dataAttribute h⟩

/-- The attributes of these two share their property with the entry of SVG. -/
example : ∀ s ∈ ["type", "t-ype"], Text.lower (propertyName s.toList) = "datatype" := by decide

/-- The attribute of a data property, and what is found for it in turn. -/
theorem exists_attribute_of_dataProperty (space : Space) {s : String} (h : IsPropertyRest s.toList)
    (hn : Text.lower ("data" ++ s) ∉ Fields.keys space.schema.aliases) :
    ∃ t, (space.info ("data" ++ s)).attributeName = "data-" ++ t ∧ IsAttributeRest t.toList ∧
      (space.info ("data-" ++ t)).propertyName = "data" ++ s := by
  obtain ⟨ds, hattribute, hds, hback⟩ := h.exists_attributeRest
  rw [← String.toList_ofList (l := ds)] at hattribute
  refine ⟨String.ofList ds, ?_, hattribute, ?_⟩
  · rw [info_of_not_mem hn, unknown_dataProperty h hds]
  · rw [info_eq_of_find (space.find_data_dash _), unknown_dataAttribute hattribute,
      String.toList_ofList, hback, String.ofList_toList]

/-- From a data property to its attribute and back: the attribute starts with `data-` and has no
capitals, and its property is the one it was found for. So no two such properties have the same
attribute. -/
theorem find_of_dataProperty (space : Space) {s : String} (h : IsPropertyRest s.toList)
    (hn : Text.lower ("data" ++ s) ∉ Fields.keys space.schema.aliases) :
    ∃ info again, space.schema.find ("data" ++ s) = .ok info ∧
      (∃ t, info.attributeName = "data-" ++ t) ∧
      (∀ c ∈ info.attributeName.toList, c.isUpper = false) ∧
      space.schema.find info.attributeName = .ok again ∧ again.propertyName = "data" ++ s ∧
      ∀ s' other, IsPropertyRest s'.toList →
        Text.lower ("data" ++ s') ∉ Fields.keys space.schema.aliases →
        space.schema.find ("data" ++ s') = .ok other →
        other.attributeName = info.attributeName → s' = s := by
  obtain ⟨t, ht, hattribute, hback⟩ := space.exists_attribute_of_dataProperty h hn
  refine ⟨_, _, space.find_eq_info _, ⟨t, ht⟩, ?_, space.find_eq_info _, ?_, ?_⟩
  · rw [ht, String.toList_append, List.forall_mem_append]
    exact ⟨by simp, hattribute.no_capitals⟩
  · rw [ht, hback]
  · intro s' other h' hn' hother he
    obtain ⟨t', ht', -, hback'⟩ := space.exists_attribute_of_dataProperty h' hn'
    obtain rfl := find_eq_ok.mp hother
    rw [ht, ht'] at he
    rw [he, hback] at hback'
    exact (String.append_right_inj "data").mp hback'.symm

theorem find_of_dataProperty_accented :
    IsPropertyRest "Éa-X.1".toList ∧
      Text.lower ("data" ++ "Éa-X.1") ∉ Fields.keys html.schema.aliases ∧
      ∃ info again, html.schema.find ("data" ++ "Éa-X.1") = .ok info ∧
        (∃ t, info.attributeName = "data-" ++ t) ∧
        (∀ c ∈ info.attributeName.toList, c.isUpper = false) ∧
        html.schema.find info.attributeName = .ok again ∧
        again.propertyName = "data" ++ "Éa-X.1" ∧
        ∀ s' other, IsPropertyRest s'.toList →
          Text.lower ("data" ++ s') ∉ Fields.keys html.schema.aliases →
          html.schema.find ("data" ++ s') = .ok other →
          other.attributeName = info.attributeName → s' = "Éa-X.1" := by
  have h : IsPropertyRest "Éa-X.1".toList := by decide +kernel
  have hn : Text.lower ("data" ++ "Éa-X.1") ∉ Fields.keys html.schema.aliases := by
    rw [data_mem_keys_iff html h.ne_nil]
    simp
  exact ⟨h, hn, html.find_of_dataProperty h hn⟩

end Command.Space

end MarkupTree
