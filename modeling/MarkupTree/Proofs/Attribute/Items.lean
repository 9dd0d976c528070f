import MarkupTree.Proofs.Attribute.Pipeline
import MarkupTree.Proofs.Text.Blank

/-!
# Lists as values of attributes

The items of a list are joined by commas and blanks, or by blanks alone, and white space is cut off
the ends of what they are joined to. The list is told by the joined text if no item holds what
separates them, and nothing can be cut off.

Results:

* `splitOn_intercalate_comma`: what stands between the commas of a joined text.
* `joinItems_eq`: nothing is cut off a joined text.
* `itemsOf_joined`, `joined_inj`: the items are read back, so different lists are joined to
  different texts.
* `resolve_list`: this holds of the values of all properties in both spaces.
-/

namespace MarkupTree.Attribute

open Command (Space)

/-! ## Separators -/

/-- What stands between the items of a list. -/
def separator (info : Schema.Info) : String := if info.has .commaSeparated then ", " else " "

/-- The items of a list, read from the value of an attribute: the texts between commas without white
space at their ends, or the texts between blanks. -/
def itemsOf (info : Schema.Info) (value : String) : List String :=
  if info.has .commaSeparated then
    (value.toList.splitOn ',').map fun piece => Text.strip (String.ofList piece)
  else (value.toList.splitOn ' ').map String.ofList

/-- Whether an item can be told from others in the value of an attribute. It is not empty. Between
commas it has no comma and no white space at its ends, and between blanks no white space at all. -/
def IsItem (info : Schema.Info) (s : String) : Prop :=
  s ≠ "" ∧
    if info.has .commaSeparated then
      ',' ∉ s.toList ∧ (∀ c ∈ s.toList.head?, Text.isBlank c = false) ∧
        ∀ c ∈ s.toList.getLast?, Text.isBlank c = false
    else ∀ c ∈ s.toList, Text.isBlank c = false

instance (info : Schema.Info) (s : String) : Decidable (IsItem info s) :=
  have (cs : List Char) : Decidable (∀ c ∈ cs, Text.isBlank c = false) :=
    List.decidableBAll (fun c : Char => Text.isBlank c = false) cs
  have (c? : Option Char) : Decidable (∀ c ∈ c?, Text.isBlank c = false) :=
    decidable_of_iff (∀ c ∈ c?.toList, Text.isBlank c = false) (by simp)
  inferInstanceAs (Decidable (s ≠ "" ∧ if info.has .commaSeparated then _ else _))

variable {info : Schema.Info} {items : List String}

theorem IsItem.isBare {s : String} (h : IsItem info s) : Text.IsBare s.toList := by
  obtain ⟨hne, h⟩ := h
  have hnil : s.toList ≠ [] := mt String.toList_eq_nil_iff.mp hne
  split at h
  · exact ⟨hnil, h.2.1, h.2.2⟩
  · exact Text.isBare_of_forall hnil h

/-- The texts between the commas of a list that is joined with a blank behind each comma: every item
but the first has the blank in front. -/
theorem splitOn_intercalate_comma {first : List Char} {rest : List (List Char)}
    (h : ∀ part ∈ first :: rest, ',' ∉ part) :
    ([',', ' '].intercalate (first :: rest)).splitOn ',' = first :: rest.map ([' '] ++ ·) := by
  have hjoin := Lists.intercalate_append [','] [' '] first rest
  rw [List.singleton_append] at hjoin
  rw [List.forall_mem_cons] at h
  rw [hjoin]
  refine List.splitOn_intercalate ',' ?_ (List.cons_ne_nil _ _)
  rw [List.forall_mem_cons, List.forall_mem_map]
  exact ⟨h.1, fun part hp => by simp [h.2 part hp]⟩

/-! ## Joined lists -/

theorem isBare_joined (h : ∀ s ∈ items, IsItem info s) (hne : items ≠ []) :
    Text.IsBare ((separator info).intercalate items).toList := by
  rw [String.toList_intercalate]
  refine Text.isBare_intercalate _ ?_ (mt List.map_eq_nil_iff.mp hne)
  rw [List.forall_mem_map]
  exact fun s hs => (h s hs).isBare

/-- Nothing is cut off a joined text. -/
theorem joinItems_eq (h : ∀ s ∈ items, IsItem info s) :
    joinItems info (items.map .str) = (separator info).intercalate items := by
  have hitems : (items.map Value.str).map Value.attributeText = items := by
    rw [List.map_map]
    exact List.map_id items
  rw [joinItems, hitems]
  show Text.strip ((separator info).intercalate items) = _
  by_cases hne : items = []
  · rw [hne, String.intercalate_nil]
    rfl
  · rw [Text.strip, (isBare_joined h hne).stripChars_eq, String.ofList_toList]

theorem joined_eq_empty_iff (h : ∀ s ∈ items, IsItem info s) :
    (separator info).intercalate items = "" ↔ items = [] := by
  constructor
  · intro he
    by_contra hne
    have hbare := isBare_joined h hne
    rw [he] at hbare
    exact hbare.ne_nil rfl
  · rintro rfl
    exact String.intercalate_nil

theorem strip_piece {s : String} (h : IsItem info s) :
    Text.strip (String.ofList s.toList) = s ∧
      Text.strip (String.ofList ([' '] ++ s.toList)) = s := by
  have hstrip := h.isBare.stripChars_eq
  constructor
  · rw [Text.strip, String.toList_ofList, hstrip, String.ofList_toList]
  · rw [Text.strip, String.toList_ofList, List.singleton_append,
      Text.stripChars_cons_of_isBlank (by decide), hstrip, String.ofList_toList]

theorem itemsOf_of_comma (hc : info.has .commaSeparated = true) (h : ∀ s ∈ items, IsItem info s)
    (hne : items ≠ []) : itemsOf info (", ".intercalate items) = items := by
  obtain ⟨first, rest, rfl⟩ := List.exists_cons_of_ne_nil hne
  have hcomma : ∀ part ∈ first.toList :: rest.map String.toList, ',' ∉ part := by
    rw [← List.map_cons, List.forall_mem_map]
    intro s hs
    have hitem := (h s hs).2
    rw [if_pos hc] at hitem
    exact hitem.1
  rw [List.forall_mem_cons] at h
  have hrest : ∀ s ∈ rest, Text.strip (String.ofList ([' '] ++ s.toList)) = s :=
    fun s hs => (strip_piece (h.2 s hs)).2
  have hpieces : (", ".intercalate (first :: rest)).toList.splitOn ',' =
      first.toList :: (rest.map String.toList).map ([' '] ++ ·) := by
    rw [String.toList_intercalate]
    exact splitOn_intercalate_comma hcomma
  rw [itemsOf, if_pos hc, hpieces, List.map_cons, (strip_piece h.1).1, List.map_map, List.map_map]
  exact congrArg (first :: ·) ((List.map_congr_left hrest).trans (List.map_id rest))

theorem itemsOf_of_blank (hc : info.has .commaSeparated = false) (h : ∀ s ∈ items, IsItem info s)
    (hne : items ≠ []) : itemsOf info (" ".intercalate items) = items := by
  have hblank : ∀ part ∈ items.map String.toList, ' ' ∉ part := by
    rw [List.forall_mem_map]
    intro s hs hmem
    have hitem := (h s hs).2
    rw [hc, if_neg Bool.false_ne_true] at hitem
    exact absurd (hitem ' ' hmem) (by decide)
  have hpieces : (" ".intercalate items).toList.splitOn ' ' = items.map String.toList := by
    rw [String.toList_intercalate]
    exact List.splitOn_intercalate ' ' hblank (mt List.map_eq_nil_iff.mp hne)
  rw [itemsOf, hc, if_neg Bool.false_ne_true, hpieces, List.map_map]
  refine (List.map_congr_left fun s _ => ?_).trans (List.map_id items)
  exact String.ofList_toList

/-- The items are read back from what they are joined to. -/
theorem itemsOf_joined (h : ∀ s ∈ items, IsItem info s) (hne : items ≠ []) :
    itemsOf info ((separator info).intercalate items) = items := by
  rw [separator]
  cases hc : info.has .commaSeparated with
  | true => exact itemsOf_of_comma hc h hne
  | false => exact itemsOf_of_blank hc h hne

/-- Different lists are joined to different texts. -/
theorem joined_inj {items' : List String} (h : ∀ s ∈ items, IsItem info s)
    (h' : ∀ s ∈ items', IsItem info s)
    (heq : (separator info).intercalate items = (separator info).intercalate items') :
    items = items' := by
  by_cases hne : items = []
  · have he := (joined_eq_empty_iff h).mpr hne
    rw [heq] at he
    rw [hne, (joined_eq_empty_iff h').mp he]
  · have hne' : items' ≠ [] := by
      intro he'
      have he := (joined_eq_empty_iff h').mpr he'
      rw [← heq] at he
      exact hne ((joined_eq_empty_iff h).mp he)
    rw [← itemsOf_joined h hne, heq, itemsOf_joined h' hne']

/-! ## The value of a property -/

/-- What the first pass makes of a single property with a list for its value. -/
theorem resolve_arr (space : Space) (name : String) (vs : List Value) :
    resolve space.schema (.obj [(name, .arr vs)]) =
      .ok [((space.info name).attributeName, .str (joinItems (space.info name) vs))] := by
  have hnames : (([⟨space.info name, .str (joinItems (space.info name) vs)⟩] : List Entry).map
      Entry.name).Nodup := List.nodup_singleton _
  have hentries : entries space.info [(name, .arr vs)] =
      [⟨space.info name, .str (joinItems (space.info name) vs)⟩] := rfl
  rw [resolve_obj space.find_eq_info, hentries, lastWrites_eq_self hnames]
  rfl

/-- In both spaces, every property has for a list of items the items joined by the separator of the
property, and nothing is cut off. This value is empty for the empty list only, all other lists are
read back from it, and so no two lists of items have the same value. -/
theorem resolve_list (space : Space) (name : String) :
    ∃ info, space.schema.find name = .ok info ∧
      ∀ items : List String, (∀ s ∈ items, IsItem info s) →
        ∃ value, resolve space.schema (.obj [(name, .arr (items.map .str))]) =
            .ok [(info.attributeName, .str value)] ∧
          value = (separator info).intercalate items ∧ (value = "" ↔ items = []) ∧
          (items ≠ [] → itemsOf info value = items) ∧
          ∀ items' : List String, (∀ s ∈ items', IsItem info s) →
            resolve space.schema (.obj [(name, .arr (items'.map .str))]) =
              resolve space.schema (.obj [(name, .arr (items.map .str))]) → items' = items := by
  refine ⟨space.info name, space.find_eq_info name, fun items h => ?_⟩
  have hvalue : ∀ items : List String, (∀ s ∈ items, IsItem (space.info name) s) →
      resolve space.schema (.obj [(name, .arr (items.map .str))]) =
        .ok [((space.info name).attributeName,
          .str ((separator (space.info name)).intercalate items))] := by
    intro items h
    rw [resolve_arr, joinItems_eq h]
  refine ⟨_, hvalue items h, rfl, joined_eq_empty_iff h, itemsOf_joined h, ?_⟩
  intro items' h' heq
  rw [hvalue items h, hvalue items' h'] at heq
  have hjoined : (separator (space.info name)).intercalate items' =
      (separator (space.info name)).intercalate items := by
    simpa using heq
  exact joined_inj h' h hjoined

/-- What is known of the kinds of files that a control accepts. -/
def acceptInfo : Schema.Info where
  propertyName := "accept"
  attributeName := "accept"
  traits := [.commaSeparated]
  space := some "html"
  defined := true

theorem find_accept : Space.html.schema.find "accept" = .ok acceptInfo := by
  have hmem : acceptInfo ∈ Space.html.infos := by decide +kernel
  exact Space.find_of_mem hmem (by decide +kernel)

theorem resolve_list_accept :
    ∃ info, Space.html.schema.find "accept" = .ok info ∧
      (∀ s ∈ ["a b", ".c"], IsItem info s) ∧
        ∃ value, resolve Space.html.schema (.obj [("accept", .arr (["a b", ".c"].map .str))]) =
            .ok [(info.attributeName, .str value)] ∧
          value = (separator info).intercalate ["a b", ".c"] ∧
          itemsOf info value = ["a b", ".c"] := by
  obtain ⟨info, hfind, h⟩ := resolve_list .html "accept"
  obtain rfl : info = acceptInfo := Except.ok.inj (hfind.symm.trans find_accept)
  have hitems : ∀ s ∈ ["a b", ".c"], IsItem acceptInfo s := by decide
  obtain ⟨value, hvalue, hjoined, -, hread, -⟩ := h ["a b", ".c"] hitems
  exact ⟨acceptInfo, hfind, hitems, value, hvalue, hjoined, hread (List.cons_ne_nil _ _)⟩

end MarkupTree.Attribute
