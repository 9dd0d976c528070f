import MarkupTree.Node.Dump
import MarkupTree.Proofs.Lists

/-!
# Lines of a dump

A line of a dump says how deep it is and what stands there: an element, an attribute, the start of a
content, or a node without children. Values may hold any character but line breaks, quotation marks
and markup among them.

Results:

* `read_chars`: what stands on a line is read back.
* `writeLine_inj`: a line tells its depth and what stands there.
* `isLine_writeLine`: it is a single line.
-/

namespace MarkupTree.Node

/-! ## Names -/

/-- Whether a character may stand in a name. -/
def isNameChar (c : Char) : Bool :=
  c.isAlphanum || c == '-' || c == '_' || c == '.' || c == ':'

/-- Whether a text is a name. -/
def IsName (s : String) : Prop := s ≠ "" ∧ ∀ c ∈ s.toList, isNameChar c = true

instance (s : String) : Decidable (IsName s) :=
  have : Decidable (∀ c ∈ s.toList, isNameChar c = true) :=
    List.decidableBAll (fun c : Char => isNameChar c = true) s.toList
  inferInstanceAs (Decidable (_ ∧ _))

/-- Whether a text is shown as a name: a name, perhaps with another one in front and a blank between
the two. -/
def IsShownName (s : String) : Prop :=
  ∃ c rest, s.toList = c :: rest ∧ isNameChar c = true ∧
    ∀ d ∈ rest, isNameChar d = true ∨ d = ' '

theorem ne_of_isNameChar {c d : Char} (hc : isNameChar c = true) (hd : isNameChar d = false) :
    c ≠ d := by
  rintro rfl
  rw [hc] at hd
  contradiction

theorem IsName.blank_not_mem {s : String} (h : IsName s) : ' ' ∉ s.toList :=
  fun hmem => absurd (h.2 ' ' hmem) (by decide)

theorem IsName.isShownName {s : String} (h : IsName s) : IsShownName s := by
  obtain ⟨c, rest, hs⟩ := List.exists_cons_of_ne_nil (mt String.toList_eq_nil_iff.mp h.1)
  have hchars := h.2
  rw [hs, List.forall_mem_cons] at hchars
  exact ⟨c, rest, hs, hchars.1, fun d hd => .inl (hchars.2 d hd)⟩

/-- A name may be shown with another one in front. -/
theorem IsName.isShownName_append {start s : String} (hstart : IsName start) (h : IsName s) :
    IsShownName (start ++ " " ++ s) := by
  obtain ⟨c, rest, hs, hc, hrest⟩ := hstart.isShownName
  refine ⟨c, rest ++ ' ' :: s.toList, by simp [hs], hc, ?_⟩
  rw [List.forall_mem_append, List.forall_mem_cons]
  exact ⟨hrest, .inr rfl, fun d hd => .inl (h.2 d hd)⟩

/-- A shown name holds only characters of names and blanks. -/
theorem IsShownName.not_mem {s : String} (h : IsShownName s) {d : Char} (hd : isNameChar d = false)
    (hblank : d ≠ ' ') : d ∉ s.toList := by
  obtain ⟨c, rest, hs, hc, hrest⟩ := h
  rw [hs, List.mem_cons, not_or]
  refine ⟨(ne_of_isNameChar hc hd).symm, fun hmem => ?_⟩
  rcases hrest d hmem with h | h
  · rw [h] at hd
    contradiction
  · exact hblank h

/-! ## What stands on a line -/

/-- What a line of a dump shows. -/
inductive Line where
  | element (name : String)
  | attr (name value : String)
  | content
  | text (value : String)
  | comment (data : String)
  | doctype

namespace Line

/-- The line without its margin. -/
def chars : Line → List Char
  | element name => ['<'] ++ name.toList ++ ['>']
  | attr name value => (name.toList ++ ['=', '"']) ++ value.toList ++ ['"']
  | content => ['c', 'o', 'n', 't', 'e', 'n', 't']
  | text value => ['"'] ++ value.toList ++ ['"']
  | comment data => ['<', '!', '-', '-', ' '] ++ data.toList ++ [' ', '-', '-', '>']
  | doctype => ['<', '!', 'D', 'O', 'C', 'T', 'Y', 'P', 'E', ' ', 'h', 't', 'm', 'l', '>']

/-- The text without as many characters at its start and at its end. -/
def between (start stop : Nat) (cs : List Char) : String :=
  String.ofList ((cs.drop start).take (cs.length - start - stop))

theorem between_append (before after : List Char) (s : String) :
    between before.length after.length (before ++ s.toList ++ after) = s := by
  have hlen : (before ++ s.toList ++ after).length - before.length - after.length =
      s.toList.length := by
    rw [List.length_append, List.length_append]
    omega
  rw [between, hlen, List.append_assoc, List.drop_left, List.take_left, String.ofList_toList]

/-- What stands on a line without its margin. -/
def read (cs : List Char) : Line :=
  if cs.head? = some '"' then .text (between 1 1 cs)
  else if cs.take 3 = ['<', '!', '-'] then .comment (between 5 4 cs)
  else if cs.take 2 = ['<', '!'] then .doctype
  else if cs.head? = some '<' then .element (between 1 1 cs)
  else if '=' ∈ cs then
    .attr (String.ofList (cs.takeWhile (· != '=')))
      (between ((cs.takeWhile (· != '=')).length + 2) 1 cs)
  else .content

/-- Whether what a line shows can be told: names are shown as names, and values have no line
breaks. -/
def IsLegible : Line → Prop
  | element name => IsShownName name
  | attr name value => IsShownName name ∧ '\n' ∉ value.toList
  | text value => '\n' ∉ value.toList
  | comment data => '\n' ∉ data.toList
  | content => True
  | doctype => True

theorem read_element {name : String} (h : IsShownName name) :
    read (chars (.element name)) = .element name := by
  obtain ⟨c, rest, hs, hc, -⟩ := id h
  have hbang : c ≠ '!' := ne_of_isNameChar hc (by decide)
  have hb := between_append ['<'] ['>'] name
  rw [chars, read, if_neg (by simp), if_neg (by simp [hs, hbang]), if_neg (by simp [hs, hbang]),
    if_pos (by simp)]
  exact congrArg Line.element hb

theorem read_attr {name : String} (h : IsShownName name) (value : String) :
    read (chars (.attr name value)) = .attr name value := by
  obtain ⟨c, rest, hs, hc, -⟩ := id h
  have hquote : c ≠ '"' := ne_of_isNameChar hc (by decide)
  have hopen : c ≠ '<' := ne_of_isNameChar hc (by decide)
  have hb := between_append (name.toList ++ ['=', '"']) ['"'] value
  have hname : ((name.toList ++ ['=', '"']) ++ value.toList ++ ['"']).takeWhile (· != '=') =
      name.toList := by
    have hne : ∀ d ∈ name.toList, (d != '=') = true := by
      intro d hd
      rw [bne_iff_ne]
      rintro rfl
      exact h.not_mem (by decide) (by decide) hd
    rw [List.append_assoc, List.append_assoc, List.takeWhile_append_of_pos hne]
    simp
  rw [chars, read, if_neg (by simp [hs, hquote]), if_neg (by simp [hs, hopen]),
    if_neg (by simp [hs, hopen]), if_neg (by simp [hs, hopen]), if_pos (by simp), hname,
    String.ofList_toList]
  rw [List.length_append] at hb
  exact congrArg (Line.attr name) hb

/-- What stands on a line is read back. -/
theorem read_chars {line : Line} (h : line.IsLegible) : read line.chars = line := by
  cases line with
  | element name => exact read_element h
  | attr name value => exact read_attr h.1 value
  | content => rfl
  | text value =>
    have hb := between_append ['"'] ['"'] value
    rw [chars, read, if_pos (by simp)]
    exact congrArg Line.text hb
  | comment data =>
    have hb := between_append ['<', '!', '-', '-', ' '] [' ', '-', '-', '>'] data
    rw [chars, read, if_neg (by simp), if_pos (by simp)]
    exact congrArg Line.comment hb
  | doctype => rfl

/-- Whether nothing that a line shows has a line break. -/
def IsUnbroken : Line → Prop
  | element name => '\n' ∉ name.toList
  | attr name value => '\n' ∉ name.toList ∧ '\n' ∉ value.toList
  | text value => '\n' ∉ value.toList
  | comment data => '\n' ∉ data.toList
  | content => True
  | doctype => True

theorem IsLegible.isUnbroken {line : Line} (h : line.IsLegible) : line.IsUnbroken := by
  cases line with
  | element name => exact IsShownName.not_mem h (by decide) (by decide)
  | attr name value => exact ⟨h.1.not_mem (by decide) (by decide), h.2⟩
  | _ => exact h

theorem newline_not_mem_chars {line : Line} (h : line.IsUnbroken) : '\n' ∉ line.chars := by
  cases line with
  | content => decide
  | doctype => decide
  | _ => simpa [chars, IsUnbroken] using h

/-- A line does not start with a blank after its margin. -/
theorem head_chars {line : Line} (h : line.IsLegible) :
    ∀ c ∈ line.chars.head?, (c == ' ') = false := by
  cases line with
  | attr name value =>
    obtain ⟨c, rest, hs, hc, -⟩ := h.1
    have hblank : c ≠ ' ' := ne_of_isNameChar hc (by decide)
    simpa [chars, hs] using hblank
  | _ => simp [chars]

end Line

/-! ## Lines with their margins -/

/-- A line at a depth. -/
def writeLine (entry : Nat × Line) : String :=
  margin entry.1 ++ String.ofList entry.2.chars

theorem toList_writeLine (entry : Nat × Line) :
    (writeLine entry).toList =
      '|' :: ' ' :: (List.replicate entry.1 ' ' ++ entry.2.chars) := by
  simp [writeLine, margin]

/-- A line tells its depth and what stands there. -/
theorem writeLine_inj {entry entry' : Nat × Line} (h : entry.2.IsLegible) (h' : entry'.2.IsLegible)
    (heq : writeLine entry = writeLine entry') : entry = entry' := by
  have hlist := String.toList_inj.mpr heq
  rw [toList_writeLine, toList_writeLine, List.cons.injEq, List.cons.injEq] at hlist
  have hblank : ∀ n, ∀ c ∈ List.replicate n ' ', (c == ' ') = true := by
    intro n c hc
    rw [List.eq_of_mem_replicate hc]
    rfl
  obtain ⟨hdepth, hchars⟩ := Lists.stretch_inj (· == ' ') (hblank _) (hblank _) (Line.head_chars h)
    (Line.head_chars h') hlist.2.2
  have hline := congrArg Line.read hchars
  rw [Line.read_chars h, Line.read_chars h'] at hline
  have hlength := congrArg List.length hdepth
  rw [List.length_replicate, List.length_replicate] at hlength
  exact Prod.ext hlength hline

theorem isLine_writeLine {entry : Nat × Line} (h : entry.2.IsUnbroken) :
    Text.IsLine (writeLine entry) := by
  constructor
  · intro he
    have hl := toList_writeLine entry
    rw [he] at hl
    contradiction
  · rw [toList_writeLine]
    have hn := Line.newline_not_mem_chars h
    simp [hn]

end MarkupTree.Node
