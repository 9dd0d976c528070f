import MarkupTree.Proofs.Json.Token
import MarkupTree.Proofs.Value.Parts

/-!
# The characters of JSON texts

The text of a value is spelled out by bare characters, which stand for themselves or hold the parts
of the text together, and by the characters of strings, some of which are escaped. What keeps
through both holds of the texts of all values.

Results:

* `spelled_write`: the text of a value is spelled out in this way.
* `isPrintable_render`: a text that is not indented stands on one line, without control characters.
* `arePaired_units`: no escape of a text stands for half of a pair.
-/

namespace MarkupTree.Json

variable {indent : Option Int} {level : Nat} {rest : List Char}

/-! ## Spelling -/

/-- Whether a character can stand bare in a text: there are line breaks in indented texts only. -/
def IsBare (indent : Option Int) (c : Char) : Prop :=
  c ≠ '\\' ∧ (0x20 ≤ c.toNat ∨ c = '\n' ∧ indent ≠ none)

/-- Whether a text is spelled out by bare characters and characters of strings. -/
inductive Spelled (indent : Option Int) : List Char → Prop
  | nil : Spelled indent []
  | bare {c : Char} {rest : List Char} :
    IsBare indent c → Spelled indent rest → Spelled indent (c :: rest)
  | escaped (c : Char) {rest : List Char} :
    Spelled indent rest → Spelled indent (escape c ++ rest)

theorem Spelled.cons {c : Char} (hc : c ≠ '\\' ∧ 0x20 ≤ c.toNat) (h : Spelled indent rest) :
    Spelled indent (c :: rest) :=
  .bare ⟨hc.1, .inl hc.2⟩ h

theorem Spelled.append {cs : List Char} (hcs : ∀ c ∈ cs, c ≠ '\\' ∧ 0x20 ≤ c.toNat)
    (h : Spelled indent rest) : Spelled indent (cs ++ rest) := by
  induction cs with
  | nil => exact h
  | cons c cs ih =>
    rw [List.forall_mem_cons] at hcs
    exact .cons hcs.1 (ih hcs.2)

theorem spelled_lineBreak (h : Spelled indent rest) :
    Spelled indent (lineBreak indent level ++ rest) := by
  cases indent with
  | none => exact h
  | some width =>
    refine .bare ⟨by decide, .inr ⟨rfl, by simp⟩⟩ (.append ?_ h)
    intro c hc
    rw [List.eq_of_mem_replicate hc]
    decide

theorem spelled_separator (h : Spelled indent rest) :
    Spelled indent (separator indent level ++ rest) := by
  cases indent with
  | none => exact .cons (by decide) (.cons (by decide) h)
  | some width => exact .cons (by decide) (spelled_lineBreak h)

theorem spelled_writeString (s : String) (h : Spelled indent rest) :
    Spelled indent (writeString s rest) := by
  refine .cons (by decide) ?_
  induction s.toList with
  | nil => exact .cons (by decide) h
  | cons c cs ih =>
    rw [List.flatMap_cons, List.append_assoc]
    exact .escaped c ih

theorem spelled_signedDigits (negative : Bool) (n : Nat) (h : Spelled indent rest) :
    Spelled indent (signedDigits negative n ++ rest) := by
  have hdigits : ∀ c ∈ Nat.toDigits 10 n, c ≠ '\\' ∧ 0x20 ≤ c.toNat := by
    intro c hc
    have hdigit : c.isDigit = true := isDigit_of_mem_toDigits (n := n) c hc
    refine ⟨ne_of_isDigit hdigit (by decide), ?_⟩
    rw [Char.isDigit, Bool.and_eq_true, decide_eq_true_eq] at hdigit
    exact Nat.le_trans (by decide) (UInt32.le_iff_toNat_le.mp hdigit.1)
  have hspelled : Spelled indent (Nat.toDigits 10 n ++ rest) := .append hdigits h
  rw [signedDigits, List.append_assoc]
  cases negative with
  | true => exact .cons (by decide) hspelled
  | false => exact hspelled

/-- Whether the text of a value in front of a spelled text is spelled. -/
def IsSpelled (indent : Option Int) (v : Value) : Prop :=
  ∀ level rest, Spelled indent rest → Spelled indent (write indent level v rest)

theorem spelled_writeItems (level : Nat) {items : List Value}
    (h : ∀ item ∈ items, IsSpelled indent item) (hrest : Spelled indent rest) :
    Spelled indent (writeItems indent level items rest) := by
  induction items with
  | nil => exact hrest
  | cons item items ih =>
    have hitems := ih fun i hi => h i (List.mem_cons_of_mem item hi)
    exact spelled_separator (h item List.mem_cons_self level _ hitems)

theorem spelled_member {key : String} {v : Value} (hv : IsSpelled indent v)
    (hrest : Spelled indent rest) :
    Spelled indent (writeString key (':' :: ' ' :: write indent level v rest)) :=
  spelled_writeString key (.cons (by decide) (.cons (by decide) (hv level rest hrest)))

theorem spelled_writeMembers (level : Nat) {fields : List (String × Value)}
    (h : ∀ field ∈ fields, IsSpelled indent field.2) (hrest : Spelled indent rest) :
    Spelled indent (writeMembers indent level fields rest) := by
  induction fields with
  | nil => exact hrest
  | cons field fields ih =>
    have hfields := ih fun f hf => h f (List.mem_cons_of_mem field hf)
    exact spelled_separator (spelled_member (h field List.mem_cons_self) hfields)

/-- The text of a value without floating-point numbers is spelled. -/
theorem spelled_write {v : Value} (h : v.Every Value.IsNoFloat) : IsSpelled indent v := by
  induction h with
  | @mk v here below ih =>
    intro level rest hrest
    cases v with
    | null =>
      have hword : ∀ c ∈ ['n', 'u', 'l', 'l'], c ≠ '\\' ∧ 0x20 ≤ c.toNat := by simp
      exact .append hword hrest
    | bool b =>
      cases b with
      | true =>
        have hword : ∀ c ∈ ['t', 'r', 'u', 'e'], c ≠ '\\' ∧ 0x20 ≤ c.toNat := by simp
        exact .append hword hrest
      | false =>
        have hword : ∀ c ∈ ['f', 'a', 'l', 's', 'e'], c ≠ '\\' ∧ 0x20 ≤ c.toNat := by simp
        exact .append hword hrest
    | int n =>
      obtain ⟨negative, m, hn, -⟩ := exists_signedDigits n
      rw [write, hn]
      exact spelled_signedDigits negative m hrest
    | float x => exact here.elim
    | str s => exact spelled_writeString s hrest
    | arr items =>
      cases items with
      | nil => exact .cons (by decide) (.cons (by decide) hrest)
      | cons item items =>
        have hclose : Spelled indent (lineBreak indent level ++ ']' :: rest) :=
          spelled_lineBreak (.cons (by decide) hrest)
        have hitems := spelled_writeItems (level + 1)
          (fun i hi => ih i (List.mem_cons_of_mem item hi)) hclose
        rw [write]
        exact .cons (by decide)
          (spelled_lineBreak (ih item List.mem_cons_self (level + 1) _ hitems))
    | obj fields =>
      cases fields with
      | nil => exact .cons (by decide) (.cons (by decide) hrest)
      | cons field fields =>
        have hclose : Spelled indent (lineBreak indent level ++ '\x7d' :: rest) :=
          spelled_lineBreak (.cons (by decide) hrest)
        have hfields := spelled_writeMembers (level + 1) (fun f hf =>
          ih f.2 (List.mem_cons_of_mem field.2 (List.mem_map_of_mem hf))) hclose
        rw [write]
        exact .cons (by decide)
          (spelled_lineBreak (spelled_member (ih field.2 List.mem_cons_self) hfields))

/-! ## Texts on one line -/

/-- Whether a text holds no control characters, line breaks among them. -/
def IsPrintable (cs : List Char) : Prop := ∀ c ∈ cs, 0x20 ≤ c.toNat

instance (cs : List Char) : Decidable (IsPrintable cs) :=
  List.decidableBAll (fun c : Char => 0x20 ≤ c.toNat) cs

theorem isPrintable_escape (c : Char) : IsPrintable (escape c) := by
  by_cases hquote : c = '"' ∨ c = '\\'
  · rcases hquote with rfl | rfl <;> decide
  by_cases hcontrol : c.toNat < 0x20
  · have hall : ∀ n < 0x20, IsPrintable (escape (Char.ofNat n)) := by decide
    rw [← Char.ofNat_toNat c]
    exact hall c.toNat hcontrol
  · rw [not_or] at hquote
    have hc : 0x20 ≤ c.toNat := Nat.not_lt.mp hcontrol
    rw [(escape_eq_self_iff c).mpr ⟨hquote.1, hquote.2, hc⟩]
    exact List.forall_mem_singleton.mpr hc

theorem Spelled.isPrintable {cs : List Char} (h : Spelled none cs) : IsPrintable cs := by
  induction h with
  | nil => exact List.forall_mem_nil _
  | bare hc _ ih =>
    refine List.forall_mem_cons.mpr ⟨?_, ih⟩
    rcases hc.2 with hc | ⟨-, hc⟩
    · exact hc
    · contradiction
  | escaped c _ ih => exact List.forall_mem_append.mpr ⟨isPrintable_escape c, ih⟩

/-- A value is written on one line without control characters. -/
theorem isPrintable_render {v : Value} (h : v.Every Value.IsNoFloat) :
    IsPrintable (render v none).toList := by
  rw [render, String.toList_ofList]
  exact (spelled_write h 0 [] .nil).isPrintable

/-! ## Pairs of escapes -/

theorem units_cons {c : Char} (h : c ≠ '\\') (rest : List Char) :
    units (c :: rest) = none :: units rest := by
  rw [units]
  · rintro _ _ _ _ _ hc
    exact absurd hc h
  · rintro _ _ hc
    exact absurd hc h

/-- An escaped character is one unit at most, and then that of a control character. -/
theorem units_escape (c : Char) (rest : List Char) :
    ∃ unit, units (escape c ++ rest) = unit :: units rest ∧ ∀ n ∈ unit, n < 0x20 := by
  unfold escape
  split
  · rename_i h
    refine ⟨none, ?_, by simp⟩
    rcases h with rfl | rfl <;> rfl
  split
  · exact ⟨none, rfl, by simp⟩
  split
  · exact ⟨none, rfl, by simp⟩
  split
  · exact ⟨none, rfl, by simp⟩
  split
  · exact ⟨none, rfl, by simp⟩
  split
  · exact ⟨none, rfl, by simp⟩
  split
  · rename_i h
    obtain ⟨a, b, d, e, hdigits⟩ :=
      List.length_eq_four.mp (Text.Hexadecimal.length_digits 4 c.toNat)
    have hvalue := value?_digits h
    rw [hdigits] at hvalue ⊢
    refine ⟨some c.toNat, ?_, by simpa using h⟩
    rw [← hvalue]
    rfl
  · rename_i h _ _ _ _ _ _
    exact ⟨none, units_cons (not_or.mp h).2 rest, by simp⟩

theorem arePaired_of_lt {us : List (Option Nat)} (h : ∀ u ∈ us, ∀ n ∈ u, n < 0x20) :
    arePaired us = true := by
  have hhalf : ∀ n < 0x20, isHighSurrogate n = false ∧ isLowSurrogate n = false := by decide
  fun_induction arePaired us with
  | case1 => rfl
  | case2 rest ih => exact ih (List.forall_mem_cons.mp h).2
  | case3 high low rest hhigh ih =>
    have := hhalf high ((List.forall_mem_cons.mp h).1 high rfl)
    rw [this.1] at hhigh
    contradiction
  | case4 high low rest hhigh ih =>
    have := hhalf high ((List.forall_mem_cons.mp h).1 high rfl)
    rw [this.2, ih (List.forall_mem_cons.mp h).2]
    rfl
  | case5 unit rest _ ih =>
    have := hhalf unit ((List.forall_mem_cons.mp h).1 unit rfl)
    rw [this.1, this.2, ih (List.forall_mem_cons.mp h).2]
    rfl

/-- No escape of a spelled text stands for half of a pair. -/
theorem arePaired_units {cs : List Char} (h : Spelled indent cs) : arePaired (units cs) = true := by
  apply arePaired_of_lt
  induction h with
  | nil => exact List.forall_mem_nil _
  | bare hc _ ih =>
    rw [units_cons hc.1]
    exact List.forall_mem_cons.mpr ⟨by simp, ih⟩
  | escaped c _ ih =>
    obtain ⟨unit, hunit, hlt⟩ := units_escape c _
    rw [hunit]
    exact List.forall_mem_cons.mpr ⟨hlt, ih⟩

end MarkupTree.Json
