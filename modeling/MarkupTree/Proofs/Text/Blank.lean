import MarkupTree.Text.Blank

/-!
# Texts without white space at their ends

Results:

* `IsBare.stripChars_eq`: nothing is cut off such a text.
* `isBare_intercalate`: nor off several of them that are joined.
-/

namespace MarkupTree.Text

/-- Whether there is something in a text, and it neither starts nor ends with white space. -/
structure IsBare (cs : List Char) : Prop where
  ne_nil : cs ≠ []
  head : ∀ c ∈ cs.head?, isBlank c = false
  last : ∀ c ∈ cs.getLast?, isBlank c = false

variable {cs ds : List Char}

theorem isBare_of_forall (hne : cs ≠ []) (h : ∀ c ∈ cs, isBlank c = false) : IsBare cs where
  ne_nil := hne
  head c hc := h c (List.mem_of_mem_head? hc)
  last c hc := h c (List.mem_of_mem_getLast? hc)

/-- White space in front of a text is cut off with what is cut off the text. -/
theorem stripChars_cons_of_isBlank {c : Char} (hc : isBlank c = true) (cs : List Char) :
    stripChars (c :: cs) = stripChars cs := by
  rw [stripChars, List.dropWhile_cons_of_pos hc, stripChars]

namespace IsBare

theorem stripChars_eq (h : IsBare cs) : stripChars cs = cs := by
  have hhead : cs.dropWhile isBlank = cs := (dropWhile_eq_self_iff cs).mpr h.head
  have hlast : cs.reverse.dropWhile isBlank = cs.reverse := by
    rw [dropWhile_eq_self_iff, List.head?_reverse]
    exact h.last
  rw [stripChars, hhead, hlast, List.reverse_reverse]

/-- Whatever stands between them does not matter. -/
theorem append (h : IsBare cs) (hd : IsBare ds) (between : List Char) :
    IsBare (cs ++ (between ++ ds)) where
  ne_nil := List.append_ne_nil_of_left_ne_nil h.ne_nil _
  head := by
    have hsome : cs.head?.isSome := List.isSome_head?.mpr h.ne_nil
    rw [List.head?_append, Option.or_of_isSome hsome]
    exact h.head
  last := by
    have hsome : ds.getLast?.isSome := List.getLast?_isSome.mpr hd.ne_nil
    rw [← List.append_assoc, List.getLast?_append, Option.or_of_isSome hsome]
    exact hd.last

end IsBare

/-- Texts without white space at their ends have none there when they are joined. -/
theorem isBare_intercalate (separator : List Char) {parts : List (List Char)}
    (h : ∀ part ∈ parts, IsBare part) (hne : parts ≠ []) :
    IsBare (separator.intercalate parts) := by
  induction parts with
  | nil => contradiction
  | cons part rest ih =>
    rw [List.forall_mem_cons] at h
    cases rest with
    | nil =>
      rw [List.intercalate_singleton]
      exact h.1
    | cons next rest =>
      rw [List.intercalate_cons_cons, List.append_assoc]
      exact h.1.append (ih h.2 (List.cons_ne_nil next rest)) separator

end MarkupTree.Text
