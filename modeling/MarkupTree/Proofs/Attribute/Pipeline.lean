import MarkupTree.Attribute.Building
import MarkupTree.Proofs.Fields
import MarkupTree.Proofs.Outcome
import MarkupTree.Proofs.Schema.Stability

/-!
# Attributes by the last write to each name

The attributes of an element are built in two passes, each of which looks names up: properties are
first renamed and written into a table, and the table is then turned into a list. The result is the
same as if every property were looked up once, and then the last of all that go by one attribute
name were taken, at the place of the first.

Results:

* `ofPairs_entries`: a table of writes holds the last write to each name.
* `nodup_lastWrites`, `lastWrites_eq_self`: last writes are those with different names.
* `buildField_entry`: what the second pass makes of one entry of the table.
* `ofProperties_obj`: the two passes give the attributes of the last writes, and never fail.
* `alike_of_attributeName_eq`: which of the names of an attribute is looked up does not matter.
* `ofProperties_eq_ofLastWrites`: all of this for both spaces.
-/

namespace MarkupTree.Attribute

/-! ## Single look-ups -/

/-- A property that counts: what is known of its name, and its value. -/
structure Entry where
  info : Schema.Info
  value : Value

namespace Entry

/-- The name of the attribute. -/
def name (entry : Entry) : String := entry.info.attributeName

/-- The entry for a property of which this is known. Null and NaN do not count, and the items of a
list are joined. -/
def ofProperty? (info : Schema.Info) : Value → Option Entry
  | .null => none
  | .float x => if x.isNaN then none else some ⟨info, .float x⟩
  | .arr items =>
    let separator := if info.has .commaSeparated then ", " else " "
    some ⟨info, .str (Text.strip (separator.intercalate (items.map Value.attributeText)))⟩
  | v => some ⟨info, v⟩

theorem ofProperty?_eq (info : Schema.Info) (v : Value) :
    ofProperty? info v = if isAbsent v then none else some ⟨info, joinedValue info v⟩ := by
  cases v <;> rfl

/-- Whether there is no attribute for the entry after all. -/
def isLeftOut (entry : Entry) : Bool :=
  match entry.value with
  | .bool false => true
  | v => entry.info.has .boolean && !v.truthy

/-- The value of the attribute. -/
def text (entry : Entry) : String :=
  match entry.value with
  | .bool true => ""
  | v => v.attributeText

/-- The address of the foreign namespace that the attribute is in. -/
def foreignURI? (entry : Entry) : Option String :=
  match entry.info.space with
  | some "xlink" => some "http://www.w3.org/1999/xlink"
  | some "xml" => some "http://www.w3.org/XML/1998/namespace"
  | some "xmlns" => some "http://www.w3.org/2000/xmlns/"
  | _ => none

/-- The parts of a name before and after its first colon. Nothing comes before a name that has no
colon. -/
def splitName (name : String) : String × String :=
  if ':' ∈ name.toList then
    (String.ofList (name.toList.takeWhile (· != ':')),
      String.ofList (name.toList.dropWhile (· != ':')).tail)
  else ("", name)

/-- The attribute. -/
def toAttribute (entry : Entry) : Attribute :=
  match entry.foreignURI? with
  | none => { name := .str entry.name, value := .str entry.text }
  | some uri =>
    { name := .str (splitName entry.name).2, value := .str entry.text,
      qualifier := .str (splitName entry.name).1, namespaceURI := .str uri }

/-- The name and the value of an entry, as they stand in a table. -/
def pair (entry : Entry) : String × Value := (entry.name, entry.value)

end Entry

/-- The entries of properties whose names are known by `lookup`. -/
def entries (lookup : String → Schema.Info) (properties : List (String × Value)) : List Entry :=
  properties.filterMap fun property => Entry.ofProperty? (lookup property.1) property.2

/-- The last entry with each name, at the place of the first. -/
def lastWrites (entries : List Entry) : List Entry :=
  (entries.map Entry.name).eraseDups.filterMap fun name => entries.reverse.find? (·.name == name)

/-- The attributes of the last writes of properties whose names are known by `lookup`. -/
def ofLastWrites (lookup : String → Schema.Info) (properties : List (String × Value)) :
    List Attribute :=
  ((lastWrites (entries lookup properties)).filter (!·.isLeftOut)).map Entry.toAttribute

theorem mem_of_mem_lastWrites {es : List Entry} {entry : Entry} (h : entry ∈ lastWrites es) :
    entry ∈ es := by
  obtain ⟨name, -, hf⟩ := List.mem_filterMap.mp h
  exact List.mem_reverse.mp (List.mem_of_find?_eq_some hf)

theorem info_of_mem_entries {lookup : String → Schema.Info} {properties : List (String × Value)}
    {entry : Entry} (h : entry ∈ entries lookup properties) :
    ∃ property ∈ properties, entry.info = lookup property.1 := by
  obtain ⟨property, hproperty, he⟩ := List.mem_filterMap.mp h
  refine ⟨property, hproperty, ?_⟩
  rw [Entry.ofProperty?_eq] at he
  split at he
  · contradiction
  · rw [← Option.some.inj he]

/-! ## The table -/

theorem lookup_pairs (es : List Entry) (name : String) :
    (es.map Entry.pair).lookup name = (es.find? (·.name == name)).map Entry.value := by
  induction es with
  | nil => rfl
  | cons entry rest ih =>
    rw [List.map_cons, Entry.pair, List.lookup_cons, List.find?_cons, ih, BEq.comm]
    cases entry.name == name <;> rfl

theorem keys_pairs (es : List Entry) : Fields.keys (es.map Entry.pair) = es.map Entry.name := by
  rw [Fields.keys, List.map_map]
  rfl

/-- What a table holds after a sequence of writes is the last write to each name. -/
theorem ofPairs_entries (es : List Entry) :
    Fields.ofPairs (es.map Entry.pair) = (lastWrites es).map Entry.pair := by
  rw [Fields.eq_filterMap_keys (Fields.nodup_keys_ofPairs (es.map Entry.pair)), Fields.keys_ofPairs,
    keys_pairs, lastWrites, List.map_filterMap]
  apply List.filterMap_congr
  intro name _
  rw [Fields.lookup_ofPairs, ← List.map_reverse, lookup_pairs, Option.map_map]
  cases hf : es.reverse.find? (·.name == name) with
  | none => rfl
  | some entry =>
    have hn := List.find?_some hf
    rw [beq_iff_eq] at hn
    rw [Option.map_some, Option.map_some, Function.comp_apply, Entry.pair, hn]

/-- The last writes have different names. -/
theorem nodup_lastWrites (es : List Entry) : ((lastWrites es).map Entry.name).Nodup := by
  rw [← keys_pairs, ← ofPairs_entries]
  exact Fields.nodup_keys_ofPairs _

/-- Entries with different names are all last writes. -/
theorem lastWrites_eq_self {es : List Entry} (h : (es.map Entry.name).Nodup) :
    lastWrites es = es := by
  have hnames : (es.map Entry.name).eraseDups = es.map Entry.name := by
    rw [← keys_pairs, ← Fields.keys_ofPairs, Fields.ofPairs_eq_self (by rwa [keys_pairs])]
  have hfind : ∀ entry ∈ es, es.reverse.find? (·.name == entry.name) = some entry := by
    intro entry he
    refine Lists.find?_eq_some_of_unique (List.mem_reverse.mpr he) (beq_self_eq_true _) ?_
    intro e hmem hname
    exact List.inj_on_of_nodup_map h (List.mem_reverse.mp hmem) he (eq_of_beq hname)
  rw [lastWrites, hnames, List.filterMap_map]
  exact (List.filterMap_congr hfind).trans List.filterMap_some

variable {schema : Schema} {lookup : String → Schema.Info}

theorem resolveField_eq (hl : ∀ name, schema.find name = .ok (lookup name))
    (attributes : List (String × Value)) (name : String) (v : Value) :
    resolveField schema attributes name v =
      .ok (Fields.update attributes ((Entry.ofProperty? (lookup name) v).toList.map Entry.pair)) := by
  rw [resolveField, hl, Entry.ofProperty?_eq]
  cases isAbsent v <;> rfl

/-- The first pass writes the entries into the table, one after another. -/
theorem resolveFields_eq (hl : ∀ name, schema.find name = .ok (lookup name))
    (properties attributes : List (String × Value)) :
    resolveFields schema attributes properties =
      .ok (Fields.update attributes ((entries lookup properties).map Entry.pair)) := by
  induction properties generalizing attributes with
  | nil => rfl
  | cons property rest ih =>
    obtain ⟨name, v⟩ := property
    rw [resolveFields_cons, resolveField_eq hl]
    show resolveFields schema _ rest = _
    rw [ih, entries, entries, List.filterMap_cons]
    cases Entry.ofProperty? (lookup name) v <;> rfl

theorem resolve_obj (hl : ∀ name, schema.find name = .ok (lookup name))
    (properties : List (String × Value)) :
    resolve schema (.obj properties) =
      .ok ((lastWrites (entries lookup properties)).map Entry.pair) := by
  rw [← ofPairs_entries]
  cases properties with
  | nil => rfl
  | cons property rest => exact resolveFields_eq hl (property :: rest) []

/-! ## The list -/

theorem colon_mem_of_splitQualifier {cs before after : List Char}
    (h : splitQualifier cs = some (before, after)) :
    ':' ∈ cs ∧ cs.takeWhile (· != ':') = before ∧ (cs.dropWhile (· != ':')).tail = after := by
  obtain ⟨rfl, hb⟩ := splitQualifier_eq_some_iff.mp h
  have hne : ∀ c ∈ before, (c != ':') = true := by
    intro c hc
    rw [bne_iff_ne]
    rintro rfl
    exact hb hc
  refine ⟨by simp, ?_, ?_⟩
  · rw [List.takeWhile_append_of_pos hne]
    simp
  · rw [List.dropWhile_append_of_pos hne]
    simp

theorem colon_not_mem_of_splitQualifier {cs : List Char} (h : splitQualifier cs = none) :
    ':' ∉ cs := by
  induction cs with
  | nil => exact List.not_mem_nil
  | cons c rest ih =>
    rw [splitQualifier] at h
    split at h
    · contradiction
    · rename_i hc
      rw [Option.map_eq_none_iff] at h
      rw [List.mem_cons, not_or]
      exact ⟨Ne.symm hc, ih h⟩

/-- An attribute of a foreign namespace has its name split at the first colon. -/
theorem foreign_eq (name value uri : String) :
    foreign name value uri =
      { name := .str (Entry.splitName name).2, value := .str value,
        qualifier := .str (Entry.splitName name).1, namespaceURI := .str uri } := by
  unfold foreign
  cases hs : splitQualifier name.toList with
  | none => rw [Entry.splitName, if_neg (colon_not_mem_of_splitQualifier hs)]
  | some parts =>
    obtain ⟨before, after⟩ := parts
    obtain ⟨hc, hb, ha⟩ := colon_mem_of_splitQualifier hs
    rw [Entry.splitName, if_pos hc, hb, ha]

/-- The spaces of the infos of both schemas. -/
def knownSpaces : List (Option String) :=
  [some "xml", some "xlink", some "xmlns", none, some "html", some "svg"]

/-- A foreign space that a schema knows has an address. -/
theorem foreignURI?_cases {i : Schema.Info} {entry : Entry} (ha : i.Alike entry.info)
    (hs : i.space ∈ knownSpaces) :
    (foreignSpace? i = none ∧ entry.foreignURI? = none) ∨
      ∃ space uri, foreignSpace? i = some space ∧ Namespace.uri? space = some uri ∧
        entry.foreignURI? = some uri := by
  rw [foreignSpace?, Entry.foreignURI?, ← ha.space]
  simp only [knownSpaces, List.mem_cons, List.not_mem_nil, or_false] at hs
  rcases hs with h | h | h | h | h | h <;> rw [h]
  · exact Or.inr ⟨"xml", _, rfl, rfl, rfl⟩
  · exact Or.inr ⟨"xlink", _, rfl, rfl, rfl⟩
  · exact Or.inr ⟨"xmlns", _, rfl, rfl, rfl⟩
  · exact Or.inl ⟨rfl, rfl⟩
  · exact Or.inl ⟨rfl, rfl⟩
  · exact Or.inl ⟨rfl, rfl⟩

theorem buildField_of_ne_false (schema : Schema) (name : String) {v : Value} (h : v ≠ .bool false) :
    buildField schema name v = do
      let info ← schema.find name
      if info.has .boolean && !v.truthy then return none
      match foreignSpace? info with
      | none => return some { name := .str name, value := .str (writtenValue v) }
      | some space =>
        match Namespace.uri? space with
        | none => throw (.missingKey (.str space))
        | some uri => return some (foreign name (writtenValue v) uri) := by
  unfold buildField
  split
  · exact absurd rfl h
  · rfl

theorem isLeftOut_of_ne_false {entry : Entry} (h : entry.value ≠ .bool false) :
    entry.isLeftOut = (entry.info.has .boolean && !entry.value.truthy) := by
  unfold Entry.isLeftOut
  split
  · rename_i hv
    exact absurd hv h
  · rfl

/-- The second pass makes the attribute of an entry, if what it finds under the attribute name is
what had been found under the property name. -/
theorem buildField_entry {entry : Entry} {i : Schema.Info} (hf : schema.find entry.name = .ok i)
    (ha : i.Alike entry.info)
    (hs : i.space ∈ knownSpaces) :
    buildField schema entry.name entry.value =
      .ok (if entry.isLeftOut then none else some entry.toAttribute) := by
  by_cases hv : entry.value = .bool false
  · rw [Entry.isLeftOut, hv]
    rfl
  · have ht : writtenValue entry.value = entry.text := rfl
    rw [buildField_of_ne_false schema _ hv, hf, isLeftOut_of_ne_false hv, ← ha.has, Entry.toAttribute]
    show (if _ then _ else _) = _
    cases i.has .boolean && !entry.value.truthy with
    | true => rfl
    | false =>
      rcases foreignURI?_cases ha hs with ⟨hn, hu⟩ | ⟨space, uri, hn, hr, hu⟩
      · rw [hu, ht]
        simp only [hn]
        rfl
      · rw [hu, ht]
        simp only [hn, hr, foreign_eq]
        rfl

/-- The second pass makes the attributes of the entries of a table, one after another. -/
theorem build_pairs {es : List Entry}
    (h : ∀ entry ∈ es, ∃ i, schema.find entry.name = .ok i ∧ i.Alike entry.info ∧
      i.space ∈ knownSpaces) :
    build schema (es.map Entry.pair) =
      .ok ((es.filter (!·.isLeftOut)).map Entry.toAttribute) := by
  induction es with
  | nil => rfl
  | cons entry rest ih =>
    obtain ⟨i, hf, ha, hs⟩ := h entry List.mem_cons_self
    rw [List.map_cons, Entry.pair, build_cons, buildField_entry hf ha hs,
      ih fun e he => h e (List.mem_cons_of_mem entry he), List.filter_cons]
    cases entry.isLeftOut <;> rfl

/-! ## Both passes -/

theorem space_info_mem (space : Command.Space) (name : String) :
    (space.info name).space ∈ knownSpaces := by
  have hsub : ∀ s ∈ [some "xml", some "xlink", some "xmlns", none, some space.name],
      s ∈ knownSpaces := by
    cases space <;> decide
  exact hsub _ (space.space_info name)

/-- Both passes together give the attributes of the last writes. -/
theorem ofProperties_obj (space : Command.Space) (properties : List (String × Value)) :
    ofProperties space.schema (.obj properties) = .ok (ofLastWrites space.info properties) := by
  have hr := resolve_obj space.find_eq_info properties
  rw [ofProperties, hr]
  apply build_pairs
  intro entry he
  obtain ⟨property, -, hn⟩ := info_of_mem_entries (mem_of_mem_lastWrites he)
  refine ⟨_, space.find_eq_info _, ?_, space_info_mem space _⟩
  rw [Entry.name, hn]
  exact space.info_attributeName property.1

/-- Names of one attribute are known alike: it does not matter which of them is looked up. -/
theorem alike_of_attributeName_eq {space : Command.Space} {name name' : String}
    (h : (space.info name).attributeName = (space.info name').attributeName) :
    (space.info name).Alike (space.info name') := by
  have hn := space.info_attributeName name
  have hn' := space.info_attributeName name'
  rw [h] at hn
  exact ⟨h, hn.traits.symm.trans hn'.traits, hn.space.symm.trans hn'.space⟩

/-- In both spaces, a single look-up of each property name says all that is needed: look-ups never
fail, all names of one attribute are known alike, and the attributes of any properties are those of
the last writes. -/
theorem ofProperties_eq_ofLastWrites (space : Command.Space) :
    (∀ name, space.schema.find name = .ok (space.info name)) ∧
      (∀ name name', (space.info name).attributeName = (space.info name').attributeName →
        (space.info name).Alike (space.info name')) ∧
      ∀ properties, ofProperties space.schema (.obj properties) =
        .ok (ofLastWrites space.info properties) := by
  refine ⟨space.find_eq_info, ?_, ?_⟩
  · intro name name' h
    exact alike_of_attributeName_eq h
  · intro properties
    exact ofProperties_obj space properties

end MarkupTree.Attribute
