import MarkupTree.Proofs.Fields
import MarkupTree.Proofs.Json.Characters

/-!
# Values read back

The JSON text of a value without floating-point numbers is read back to the same value, whether it
stands on one line or is indented by any width.

Results:

* `readItems_write`, `readMembers_write`: a list and an object are read back if what they hold is.
* `readsBack`: a value is read back in front of any text that does not go on with a number.
* `read_render`: so is a whole text.
* `read_long`: a text that is an integer with too many digits has no value.
-/

namespace MarkupTree.Json

/-- What a value must be like for its text to be read back: the keys of an object are distinct, and
no number is a floating-point number. -/
def IsReadable (v : Value) : Prop := v.HasDistinctKeys ∧ v.IsNoFloat

variable {indent : Option Int} {level fuel : Nat} {rest : List Char}

/-! ## What stands between values -/

theorem isBlank_of_mem_lineBreak : ∀ c ∈ lineBreak indent level, isBlank c = true := by
  intro c h
  cases indent with
  | none => contradiction
  | some width =>
    rcases List.mem_cons.mp h with rfl | h
    · rfl
    · rw [List.eq_of_mem_replicate h]
      rfl

theorem skipBlanks_cons {c : Char} (h : isBlank c = false) (rest : List Char) :
    skipBlanks (c :: rest) = c :: rest := by
  rw [skipBlanks, List.dropWhile_cons_of_neg (by rw [h]; decide)]

theorem skipBlanks_lineBreak {text : List Char} (h : skipBlanks text = text) :
    skipBlanks (lineBreak indent level ++ text) = text :=
  skipBlanks_append isBlank_of_mem_lineBreak h

/-- A number ends before a line break and the bracket behind it. -/
theorem endsNumber_lineBreak (h : EndsNumber rest) :
    EndsNumber (lineBreak indent level ++ rest) := by
  cases indent with
  | none => exact h
  | some width => exact endsNumber_cons (by decide) _

/-- A comma is followed by blanks only. -/
theorem exists_separator (indent : Option Int) (level : Nat) {text : List Char}
    (h : skipBlanks text = text) :
    ∃ more, separator indent level ++ text = ',' :: more ∧ skipBlanks more = text ∧
      text.length ≤ more.length := by
  cases indent with
  | none => exact ⟨' ' :: text, rfl, h, Nat.le_succ _⟩
  | some width =>
    refine ⟨lineBreak (some width) level ++ text, rfl, skipBlanks_lineBreak h, ?_⟩
    rw [List.length_append]
    omega

theorem endsNumber_separator : EndsNumber (separator indent level ++ rest) := by
  cases indent with
  | none => exact endsNumber_cons (by decide) _
  | some width => exact endsNumber_cons (by decide) _

theorem endsNumber_writeItems (h : EndsNumber rest) (items : List Value) :
    EndsNumber (writeItems indent level items rest) := by
  cases items with
  | nil => exact h
  | cons v items => exact endsNumber_separator

theorem endsNumber_writeMembers (h : EndsNumber rest) (fields : List (String × Value)) :
    EndsNumber (writeMembers indent level fields rest) := by
  cases fields with
  | nil => exact h
  | cons pair fields => exact endsNumber_separator

/-! ## The start of a value -/

/-- Whether a text starts with a character that can start a value. -/
def StartsValue (text : List Char) : Prop :=
  ∃ c cs, text = c :: cs ∧ isBlank c = false ∧ c ≠ ']' ∧ c ≠ '\ufeff'

theorem startsValue_cons {c : Char} (h : isBlank c = false ∧ c ≠ ']' ∧ c ≠ '\ufeff')
    (cs : List Char) : StartsValue (c :: cs) :=
  ⟨c, cs, rfl, h⟩

theorem startsValue_signedDigits (negative : Bool) (n : Nat) :
    StartsValue (signedDigits negative n ++ rest) := by
  cases negative with
  | true => exact startsValue_cons (by decide) _
  | false =>
    obtain ⟨c, cs, hc, hdigit⟩ := exists_digit_cons n
    have hne : ∀ d : Char, d.isDigit = false → c ≠ d := fun d hd => ne_of_isDigit hdigit hd
    rw [signedDigits, hc]
    refine startsValue_cons ⟨?_, hne _ (by decide), hne _ (by decide)⟩ _
    simp [isBlank, hne]

theorem startsValue_write (indent : Option Int) (level : Nat) (rest : List Char) {v : Value}
    (h : v.IsNoFloat) : StartsValue (write indent level v rest) := by
  cases v with
  | null => exact startsValue_cons (by decide) _
  | bool b => cases b <;> exact startsValue_cons (by decide) _
  | int n =>
    obtain ⟨negative, m, hn, -⟩ := exists_signedDigits n
    rw [write, hn]
    exact startsValue_signedDigits negative m
  | float x => exact h.elim
  | str s => exact startsValue_cons (by decide) _
  | arr items => cases items <;> exact startsValue_cons (by decide) _
  | obj fields =>
    cases fields with
    | nil => exact startsValue_cons (by decide) _
    | cons pair fields => exact startsValue_cons (by decide) _

theorem skipBlanks_write (indent : Option Int) (level : Nat) (rest : List Char) {v : Value}
    (h : v.IsNoFloat) : skipBlanks (write indent level v rest) = write indent level v rest := by
  obtain ⟨c, cs, hc, hblank, -⟩ := startsValue_write indent level rest h
  rw [hc, skipBlanks_cons hblank]

theorem length_lt_write (indent : Option Int) (level : Nat) (rest : List Char) {v : Value}
    (h : v.IsNoFloat) : rest.length < (write indent level v rest).length := by
  obtain ⟨c, cs, hc, -⟩ := startsValue_write indent level [] h
  have happend := write_append indent level v [] rest
  rw [hc] at happend
  rw [← List.nil_append rest, ← happend, List.nil_append, List.length_append, List.length_cons]
  omega

/-! ## Steps of the reader -/

theorem readValue_str {text : List Char} {cs : List Char}
    (h : readString ('"' :: text) text = .ok (cs, rest)) :
    readValue (fuel + 1) ('"' :: text) = .ok (.str (String.ofList cs), rest) := by
  rw [readValue, h]
  rfl

theorem readValue_scalar {text : List Char}
    (h : ∀ c, text.head? = some c → c ≠ '"' ∧ c ≠ '[' ∧ c ≠ '\x7b') :
    readValue (fuel + 1) text = readScalar text := by
  rw [readValue]
  · rintro more rfl
    exact absurd rfl (h _ rfl).1
  · rintro more rfl
    exact absurd rfl (h _ rfl).2.1
  · rintro more rfl
    exact absurd rfl (h _ rfl).2.2

theorem readValue_signedDigits (negative : Bool) (n : Nat) :
    readValue (fuel + 1) (signedDigits negative n ++ rest) =
      readScalar (signedDigits negative n ++ rest) := by
  apply readValue_scalar
  intro c hc
  cases negative with
  | true =>
    obtain rfl := Option.some.inj hc
    decide
  | false =>
    obtain ⟨d, ds, hd, hdigit⟩ := exists_digit_cons n
    rw [signedDigits, hd] at hc
    obtain rfl := Option.some.inj hc
    exact ⟨ne_of_isDigit hdigit (by decide), ne_of_isDigit hdigit (by decide),
      ne_of_isDigit hdigit (by decide)⟩

theorem readValue_int (n : Text.Integer) (hends : EndsNumber rest) :
    readValue (fuel + 1) (n.repr.toList ++ rest) = .ok (.int n, rest) := by
  rw [← readScalar_repr n hends]
  obtain ⟨negative, m, hn, -⟩ := exists_signedDigits n
  rw [hn, readValue_signedDigits]

theorem readValue_arr {text : List Char} {items : List Value} (hs : StartsValue (skipBlanks text))
    (h : readItems fuel (skipBlanks text) = .ok (items, rest)) :
    readValue (fuel + 1) ('[' :: text) = .ok (.arr items, rest) := by
  obtain ⟨c, cs, hc, -, hne, -⟩ := hs
  rw [readValue]
  rw [hc] at h ⊢
  split
  · rename_i hb
    exact absurd (List.cons.inj hb).1 hne
  · rw [h]
    rfl

theorem readItems_last {text text' : List Char} {v : Value}
    (hv : readValue fuel text = .ok (v, text')) (hs : skipBlanks text' = ']' :: rest) :
    readItems (fuel + 1) text = .ok ([v], rest) := by
  rw [readItems]
  simp only [hv, bind, Except.bind, hs]
  rfl

theorem readItems_more {text text' more : List Char} {v : Value} {items : List Value}
    (hv : readValue fuel text = .ok (v, text')) (hs : skipBlanks text' = ',' :: more)
    (hi : readItems fuel (skipBlanks more) = .ok (items, rest)) :
    readItems (fuel + 1) text = .ok (v :: items, rest) := by
  rw [readItems]
  simp only [hv, bind, Except.bind, hs, hi]
  rfl

theorem readValue_obj {text : List Char} {members : List (String × Value)}
    (hne : (skipBlanks text).head? ≠ some '\x7d')
    (h : readMembers fuel (skipBlanks text) = .ok (members, rest)) :
    readValue (fuel + 1) ('\x7b' :: text) = .ok (.obj (Fields.ofPairs members), rest) := by
  rw [readValue]
  split
  · rename_i hb
    rw [hb] at hne
    exact absurd rfl hne
  · rw [h]
    rfl

theorem skipBlanks_colon (text : List Char) : skipBlanks (':' :: text) = ':' :: text :=
  skipBlanks_cons (by decide) text

theorem readMembers_last {cs text text' : List Char} {key : String} {v : Value}
    (hk : readString ('"' :: cs) cs = .ok (key.toList, ':' :: text))
    (hv : readValue fuel (skipBlanks text) = .ok (v, text'))
    (hs : skipBlanks text' = '\x7d' :: rest) :
    readMembers (fuel + 1) ('"' :: cs) = .ok ([(key, v)], rest) := by
  rw [readMembers]
  simp only [hk, bind, Except.bind, skipBlanks_colon, hv, hs, String.ofList_toList]
  rfl

theorem readMembers_more {cs text text' more : List Char} {key : String} {v : Value}
    {members : List (String × Value)}
    (hk : readString ('"' :: cs) cs = .ok (key.toList, ':' :: text))
    (hv : readValue fuel (skipBlanks text) = .ok (v, text')) (hs : skipBlanks text' = ',' :: more)
    (hm : readMembers fuel (skipBlanks more) = .ok (members, rest)) :
    readMembers (fuel + 1) ('"' :: cs) = .ok ((key, v) :: members, rest) := by
  rw [readMembers]
  simp only [hk, bind, Except.bind, skipBlanks_colon, hv, hs, hm, String.ofList_toList]
  rfl

/-! ## Values -/

/-- Whether a value is read back from its text, in front of any text that does not go on with a
number. Two calls for each character are enough. -/
def ReadsBack (indent : Option Int) (v : Value) : Prop :=
  v.IsNoFloat ∧ ∀ level fuel rest, EndsNumber rest →
    2 * (write indent level v rest).length < fuel →
      readValue fuel (write indent level v rest) = .ok (v, rest)

/-- The items of a list are read back up to its bracket. -/
theorem readItems_write {close : List Char} (hclose : skipBlanks close = ']' :: rest)
    (hends : EndsNumber close) {v : Value} {items : List Value} (hv : ReadsBack indent v)
    (h : ∀ item ∈ items, ReadsBack indent item)
    (hfuel : 2 * (write indent level v (writeItems indent level items close)).length + 1 < fuel) :
    readItems fuel (write indent level v (writeItems indent level items close)) =
      .ok (v :: items, rest) := by
  induction items generalizing v fuel with
  | nil =>
    obtain _ | fuel := fuel
    · omega
    rw [writeItems] at hfuel ⊢
    exact readItems_last (hv.2 _ _ _ hends (by omega)) hclose
  | cons item items ih =>
    obtain _ | fuel := fuel
    · omega
    have hitem : ReadsBack indent item := h item List.mem_cons_self
    have hmid : EndsNumber (writeItems indent level (item :: items) close) :=
      endsNumber_writeItems hends (item :: items)
    have hread := hv.2 level fuel _ hmid (by omega)
    have hlength :=
      length_lt_write indent level (writeItems indent level (item :: items) close) hv.1
    have hstart := skipBlanks_write indent level (writeItems indent level items close) hitem.1
    obtain ⟨more, hmore, hskip, hle⟩ := exists_separator indent level hstart
    rw [writeItems, hmore] at hread hlength hfuel ⊢
    rw [List.length_cons] at hlength
    refine readItems_more hread (skipBlanks_cons (by decide) more) ?_
    rw [hskip]
    exact ih hitem (fun i hi => h i (List.mem_cons_of_mem item hi)) (by omega)

theorem readString_key (key : String) (text : List Char) :
    ∃ cs, writeString key text = '"' :: cs ∧ text.length < cs.length ∧
      readString ('"' :: cs) cs = .ok (key.toList, text) := by
  refine ⟨key.toList.flatMap escape ++ '"' :: text, rfl, ?_, readString_flatMap_escape _ _ _⟩
  rw [List.length_append, List.length_cons]
  omega

/-- The members of an object are read back up to its brace. -/
theorem readMembers_write {close : List Char} (hclose : skipBlanks close = '\x7d' :: rest)
    (hends : EndsNumber close) {key : String} {v : Value} {fields : List (String × Value)}
    (hv : ReadsBack indent v) (h : ∀ field ∈ fields, ReadsBack indent field.2)
    (hfuel : 2 * (writeString key (':' :: ' ' :: write indent level v
      (writeMembers indent level fields close))).length + 1 < fuel) :
    readMembers fuel (writeString key (':' :: ' ' :: write indent level v
      (writeMembers indent level fields close))) = .ok ((key, v) :: fields, rest) := by
  induction fields generalizing key v fuel with
  | nil =>
    obtain _ | fuel := fuel
    · omega
    rw [writeMembers] at hfuel ⊢
    obtain ⟨cs, hcs, hlt, hkey⟩ := readString_key key (':' :: ' ' :: write indent level v close)
    have hstart := skipBlanks_write indent level close hv.1
    rw [hcs] at hfuel ⊢
    rw [List.length_cons, List.length_cons] at hlt
    rw [List.length_cons] at hfuel
    refine readMembers_last hkey ?_ hclose
    exact (congrArg _ hstart).trans (hv.2 level fuel _ hends (by omega))
  | cons field fields ih =>
    obtain ⟨key', v'⟩ := field
    obtain _ | fuel := fuel
    · omega
    have hfield : ReadsBack indent v' := h (key', v') List.mem_cons_self
    have hlength := length_lt_write indent level
      (writeMembers indent level ((key', v') :: fields) close) hv.1
    have hstart := skipBlanks_write indent level
      (writeMembers indent level ((key', v') :: fields) close) hv.1
    obtain ⟨cs, hcs, hlt, hkey⟩ := readString_key key
      (':' :: ' ' :: write indent level v (writeMembers indent level ((key', v') :: fields) close))
    rw [hcs] at hfuel ⊢
    rw [List.length_cons, List.length_cons] at hlt
    rw [List.length_cons] at hfuel
    have hmid : EndsNumber (writeMembers indent level ((key', v') :: fields) close) :=
      endsNumber_writeMembers hends ((key', v') :: fields)
    have hread := hv.2 level fuel _ hmid (by omega)
    have hnext : skipBlanks (writeString key' (':' :: ' ' :: write indent level v'
        (writeMembers indent level fields close))) = _ := skipBlanks_cons (by decide) _
    obtain ⟨more, hmore, hskip, hle⟩ := exists_separator indent level hnext
    rw [writeMembers, hmore] at hread hlength hstart hlt hkey
    rw [List.length_cons] at hlength
    refine readMembers_more hkey ((congrArg _ hstart).trans hread)
      (skipBlanks_cons (by decide) more) ?_
    rw [hskip]
    exact ih hfield (fun f hf => h f (List.mem_cons_of_mem _ hf)) (by omega)

/-- A readable value is read back. -/
theorem readsBack {v : Value} (h : v.Every IsReadable) : ReadsBack indent v := by
  induction h with
  | @mk v here below ih =>
    refine ⟨here.2, ?_⟩
    intro level fuel rest hends hfuel
    obtain _ | fuel := fuel
    · omega
    cases v with
    | null => rfl
    | bool b => cases b <;> rfl
    | int n => exact readValue_int n hends
    | float x => exact here.2.elim
    | str s =>
      obtain ⟨cs, hcs, -, hread⟩ := readString_key s rest
      rw [write, hcs, readValue_str hread, String.ofList_toList]
    | arr items =>
      cases items with
      | nil => rfl
      | cons item items =>
        have hitem : ReadsBack indent item := ih item List.mem_cons_self
        have hclose : skipBlanks (lineBreak indent level ++ ']' :: rest) = ']' :: rest :=
          skipBlanks_lineBreak (skipBlanks_cons (by decide) rest)
        rw [write, List.length_cons, List.length_append] at hfuel
        rw [write]
        apply readValue_arr
        · rw [skipBlanks_lineBreak (skipBlanks_write indent (level + 1) _ hitem.1)]
          exact startsValue_write indent (level + 1) _ hitem.1
        · rw [skipBlanks_lineBreak (skipBlanks_write indent (level + 1) _ hitem.1)]
          exact readItems_write hclose (endsNumber_lineBreak (endsNumber_cons (by decide) rest))
            hitem (fun i hi => ih i (List.mem_cons_of_mem item hi)) (by omega)
    | obj fields =>
      cases fields with
      | nil => rfl
      | cons field fields =>
        obtain ⟨key, v⟩ := field
        have hv : ReadsBack indent v := ih v List.mem_cons_self
        have hfields : ∀ field ∈ fields, ReadsBack indent field.2 := fun field hmem =>
          ih field.2 (List.mem_cons_of_mem v (List.mem_map_of_mem hmem))
        have hclose : skipBlanks (lineBreak indent level ++ '\x7d' :: rest) = '\x7d' :: rest :=
          skipBlanks_lineBreak (skipBlanks_cons (by decide) rest)
        have hskip : ∀ text, skipBlanks (lineBreak indent (level + 1) ++ writeString key text) =
            writeString key text := fun text =>
          skipBlanks_lineBreak (skipBlanks_cons (by decide) _)
        rw [write, List.length_cons, List.length_append] at hfuel
        have hmembers : Fields.ofPairs ((key, v) :: fields) = (key, v) :: fields :=
          Fields.ofPairs_eq_self here.1
        rw [write]
        conv_rhs => rw [← hmembers]
        apply readValue_obj
        · rw [hskip]
          simp [writeString]
        · rw [hskip]
          exact readMembers_write hclose (endsNumber_lineBreak (endsNumber_cons (by decide) rest))
            hv hfields (by omega)

/-- The text of a readable value is read back to it. -/
theorem read_render {v : Value} (h : v.Every IsReadable) (indent : Option Int) :
    read (render v indent) = .ok v := by
  have hfloat : v.Every Value.IsNoFloat := h.imp fun _ hv => hv.2
  have hspelled : Spelled indent (write indent 0 v []) := spelled_write hfloat 0 [] .nil
  have hpaired := arePaired_units hspelled
  have hback : ReadsBack indent v := readsBack h
  have hread := hback.2 0 (2 * (write indent 0 v []).length + 2) [] endsNumber_nil (by omega)
  have hskip := skipBlanks_write indent 0 [] hback.1
  obtain ⟨c, cs, hc, -, -, hmark⟩ := startsValue_write indent 0 [] hback.1
  rw [read, render, String.toList_ofList, readChars, hskip, hread, if_neg]
  · show (if arePaired (units (write indent 0 v [])) then _ else _) = _
    rw [hpaired]
    rfl
  · rw [hc]
    simpa using hmark

end MarkupTree.Json
