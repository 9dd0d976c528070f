import MarkupTree.Command.Settings
import MarkupTree.Attribute.Basic
import MarkupTree.Proofs.Schema.Spelling

/-!
# The schemas of the two spaces

The tables of HTML and of SVG are free of collisions, so that each of their infos is found under
both of its names, in any letter case, and under no other name.

Results:

* `builtFrom`, `unambiguous`: the infos that the schema of a space knows.
* `find_of_mem`: each of them is found under both of its names.
* `eq_of_mem_codes`, `find_of_dashed`: the data names that a table knows.
* `space_of_mem`: the namespaces that they are in.
-/

namespace MarkupTree.Command.Space

open MarkupTree.Schema

/-- The schema of a space. -/
def schema : Space → Schema
  | html => Schema.html
  | svg => Schema.svg

/-- The address of the namespace of the elements of a space. -/
def uri : Space → String
  | html => MarkupTree.Namespace.html
  | svg => MarkupTree.Namespace.svg

/-! ## Tables -/

/-- The definitions that both schemas share, with the infos of their tables. -/
def sharedDefinitions : List (Schema × List Info) :=
  [(xml, tableInfos Table.xmlProperties (replaceStart "xml:" 3) (some "xml")),
   (xlink, tableInfos Table.xlinkProperties (replaceStart "xlink:" 5) (some "xlink")),
   (xmlns, tableInfos Table.xmlnsProperties (caseInsensitive Table.xmlnsAttributes) (some "xmlns")),
   (aria, tableInfos Table.ariaProperties ariaAttribute none)]

/-- The definition that a schema has alone, with the infos of its table. -/
def ownDefinition : Space → Schema × List Info
  | html =>
    (htmlBase, tableInfos (Table.htmlProperties ++ Table.eventProperties)
      (caseInsensitive Table.htmlAttributes) (some "html"))
  | svg =>
    (svgBase, tableInfos (Table.svgProperties ++ Table.eventProperties)
      (caseSensitive (Table.svgAttributes ++ Table.eventHandlers.map fun name =>
        (name, Text.lower name))) (some "svg"))

/-- The infos that the schema of a space is built from. -/
def infos (space : Space) : List Info :=
  (sharedDefinitions ++ [space.ownDefinition]).flatMap Prod.snd

/-- The attribute names that the own table of a space gives. -/
def attributes : Space → List (String × String)
  | html => Table.htmlAttributes
  | svg => Table.svgAttributes

/-- The spellings of all tables of a space. -/
def pairs (space : Space) : List (List Nat × List Nat) :=
  [startPairs "xml:" 3 Table.xmlProperties, startPairs "xlink:" 5 Table.xlinkProperties,
    attributePairs Table.xmlnsAttributes, startPairs "aria-" 4 Table.ariaProperties,
    attributePairs space.attributes].flatten

/-- The lower forms of the names in the tables of a space. -/
def codes (space : Space) : List (List Nat) :=
  space.infos.map (fun info => Text.foldedBytes info.propertyName) ++ respelled space.pairs

theorem ofSpace?_name (space : Space) : ofSpace? (.str space.name) = .ok space.schema := by
  cases space
  · exact ofSpace?_html
  · exact ofSpace?_svg

theorem builtFrom_definition {space : Space} {definition : Schema × List Info}
    (h : definition ∈ sharedDefinitions ++ [space.ownDefinition]) :
    definition.1.BuiltFrom definition.2 := by
  simp only [sharedDefinitions, List.mem_append, List.mem_cons, List.not_mem_nil, or_false] at h
  rcases h with (rfl | rfl | rfl | rfl) | rfl
  · exact .define _ _ _
  · exact .define _ _ _
  · exact .define _ _ _
  · exact .define _ _ _
  · cases space
    · simp only [ownDefinition, htmlBase]
      exact BuiltFrom.define _ _ _
    · simp only [ownDefinition, svgBase]
      exact BuiltFrom.define _ _ _

theorem builtFrom (space : Space) : space.schema.BuiltFrom space.infos := by
  have hs : space.schema =
      merge ((sharedDefinitions ++ [space.ownDefinition]).map Prod.fst) space.name := by
    cases space <;>
      simp only [schema, Schema.html, Schema.svg, sharedDefinitions, ownDefinition, name,
        List.cons_append, List.nil_append, List.map_cons, List.map_nil]
  rw [hs]
  exact .merge _ (fun _ h => builtFrom_definition h) _

/-- The names in the tables are ASCII and all different, without blanks. Only the property
`dataType` of SVG starts with `data` and goes on. -/
theorem tables_checked (space : Space) :
    ((space.infos.map (·.propertyName) ++ Table.eventHandlers).all Text.isAscii = true ∧
      (space.attributes.all fun pair => Text.isAscii pair.1 && Text.isAscii pair.2) = true) ∧
      (space.codes.all fun code => !code.contains 32 &&
        (code.take 4 != [100, 97, 116, 97] || code.length == 4 ||
          space == svg && code == Text.foldedBytes "datatype")) = true ∧
      distinct space.codes = true := by
  cases space <;> decide +kernel

theorem isAscii_of_mem {space : Space} {info : Info} (h : info ∈ space.infos) :
    Text.isAscii info.propertyName = true :=
  List.all_eq_true.mp space.tables_checked.1.1 _
    (List.mem_append_left _ (List.mem_map_of_mem h))

theorem isAscii_eventHandler {name : String} (h : name ∈ Table.eventHandlers) :
    Text.isAscii name = true :=
  List.all_eq_true.mp html.tables_checked.1.1 _ (List.mem_append_right _ h)

theorem isAscii_attributes (space : Space) {pair : String × String} (h : pair ∈ space.attributes) :
    Text.isAscii pair.1 = true ∧ Text.isAscii pair.2 = true := by
  rw [← Bool.and_eq_true]
  exact List.all_eq_true.mp space.tables_checked.1.2 pair h

/-! ## No collision -/

theorem spelledBy_of_mem {space : Space} {info : Info} (h : info ∈ space.infos) :
    info.SpelledBy space.pairs := by
  have hn := isAscii_of_mem h
  simp only [infos, sharedDefinitions, List.flatMap_append, List.flatMap_cons, List.flatMap_nil,
    List.append_nil, List.mem_append] at h
  rcases h with (h | h | h | h) | h
  · exact (spelledBy_replaceStart (by decide) h hn).flatten (by simp)
  · exact (spelledBy_replaceStart (by decide) h hn).flatten (by simp)
  · exact (spelledBy_caseInsensitive (by decide) h hn).flatten (by simp)
  · exact (spelledBy_ariaAttribute h hn).flatten (by simp)
  · cases space <;> simp only [ownDefinition] at h
    · exact (spelledBy_caseInsensitive (fun _ => isAscii_attributes html) h hn).flatten
        (by simp)
    · exact (spelledBy_caseSensitive (fun _ => isAscii_attributes svg)
        (fun _ => isAscii_eventHandler) h).flatten (by simp)

theorem lowerNames_eq_codes (space : Space) :
    space.infos.map (fun info => Text.lowerCodes info.propertyName) ++ respelled space.pairs =
      space.codes := by
  rw [codes, List.map_congr_left fun info h => Text.lowerCodes_of_ascii (isAscii_of_mem h)]

theorem unambiguous (space : Space) : Unambiguous space.infos := by
  apply unambiguous_of_nodup _ fun info h => spelledBy_of_mem h
  rw [lowerNames_eq_codes]
  exact nodup_of_distinct space.tables_checked.2.2

theorem find_of_mem {space : Space} {info : Info} (hi : info ∈ space.infos) {name : String}
    (ha : info.answersTo (Text.lower name) = true) : space.schema.find name = .ok info :=
  space.builtFrom.find_of_mem space.unambiguous hi ha

theorem answersTo_mem_codes {space : Space} {info : Info} (hi : info ∈ space.infos) {name : String}
    (ha : info.answersTo (Text.lower name) = true) : Text.lowerCodes name ∈ space.codes := by
  rw [← lowerNames_eq_codes]
  rcases Info.answersTo_iff.mp ha with h | h <;> rw [Text.lower_eq_iff] at h
  · rw [h, List.mem_append]
    exact Or.inl (List.mem_map.mpr ⟨info, hi, rfl⟩)
  · rw [h]
    exact (spelledBy_of_mem hi).mem_names hi

theorem eq_of_mem_codes {space : Space} {code : List Nat} (h : code ∈ space.codes)
    (hd : code.take 4 = [100, 97, 116, 97]) :
    code.length = 4 ∨ space = svg ∧ code = Text.foldedBytes "datatype" := by
  have hc := List.all_eq_true.mp space.tables_checked.2.1 code h
  rw [Bool.and_eq_true] at hc
  replace hc := hc.2
  rw [hd, bne_self_eq_false, Bool.false_or, Bool.or_eq_true, Bool.and_eq_true] at hc
  exact hc.imp eq_of_beq fun hc => ⟨eq_of_beq hc.1, eq_of_beq hc.2⟩

theorem blank_not_mem_of_mem_codes {space : Space} {code : List Nat} (h : code ∈ space.codes) :
    32 ∉ code := by
  have hc := List.all_eq_true.mp space.tables_checked.2.1 code h
  rw [Bool.and_eq_true] at hc
  simpa using hc.1

/-- No name in a table starts with `data-`. -/
theorem find_of_dashed {space : Space} {name : String}
    (h : (Text.lowerCodes name).take 5 = [100, 97, 116, 97, 45]) :
    space.schema.find name = .ok (unknown name) := by
  have hd : (Text.lowerCodes name).take 4 = [100, 97, 116, 97] := by
    have := congrArg (List.take 4) h
    rwa [List.take_take] at this
  apply space.builtFrom.find_of_not_answersTo
  intro info hi
  by_contra ha
  rw [Bool.not_eq_false] at ha
  rcases eq_of_mem_codes (answersTo_mem_codes hi ha) hd with hl | ⟨-, hc⟩
  · rw [List.take_of_length_le (by omega)] at h
    rw [h] at hl
    exact absurd hl (by decide)
  · rw [hc] at h
    exact absurd h (by decide)

/-- The infos of a schema are in one of the foreign spaces, in its own, or in none. -/
theorem space_of_mem {space : Space} {info : Info} (h : info ∈ space.infos) :
    info.space ∈ [some "xml", some "xlink", some "xmlns", none, some space.name] := by
  simp only [infos, sharedDefinitions, List.flatMap_append, List.flatMap_cons, List.flatMap_nil,
    List.append_nil, List.mem_append, tableInfos] at h
  rcases h with (h | h | h | h) | h
  · obtain ⟨p, -, rfl⟩ := List.mem_map.mp h
    simp
  · obtain ⟨p, -, rfl⟩ := List.mem_map.mp h
    simp
  · obtain ⟨p, -, rfl⟩ := List.mem_map.mp h
    simp
  · obtain ⟨p, -, rfl⟩ := List.mem_map.mp h
    simp
  · cases space <;> obtain ⟨p, -, rfl⟩ := List.mem_map.mp h <;> simp [name]

end MarkupTree.Command.Space
