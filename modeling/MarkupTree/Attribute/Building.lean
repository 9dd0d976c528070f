import MarkupTree.Attribute.Basic
import MarkupTree.Schema.Basic
import MarkupTree.Text.Blank

/-!
# From properties to attributes

The properties of a source element are first renamed to attributes, whose values keep their types,
and then turned into the list of attributes of the element.

Results:

* `resolveFields_cons`: one property after another is written into the attributes so far.
* `build_cons`: the list of attributes is built one by one.
* `splitQualifier_eq_some_iff`: a name is split at its first colon.
-/

namespace MarkupTree.Attribute

/-! ## Renaming properties -/

/-- Whether a property with this value is left out. -/
def isAbsent (v : Value) : Bool :=
  match v with
  | .null => true
  | v => v.isNaN

/-- A list as the value of an attribute: the texts of its items, joined. -/
def joinItems (info : Schema.Info) (items : List Value) : String :=
  Text.strip ((if info.has .commaSeparated then ", " else " ").intercalate
    (items.map Value.attributeText))

/-- The value of an attribute before it is written out. Only lists are joined. -/
def joinedValue (info : Schema.Info) : Value → Value
  | .arr items => .str (joinItems info items)
  | v => v

/-- Writes one property into the attributes so far. -/
def resolveField (schema : Schema) (attributes : List (String × Value)) (name : String)
    (v : Value) : Except Failure (List (String × Value)) :=
  if isAbsent v then .ok attributes
  else do
    let info ← schema.find name
    return Fields.set info.attributeName (joinedValue info v) attributes

/-- Writes properties into the attributes so far. -/
def resolveFields (schema : Schema) (attributes : List (String × Value)) :
    List (String × Value) → Except Failure (List (String × Value))
  | [] => .ok attributes
  | (name, v) :: rest => do
    let attributes ← resolveField schema attributes name v
    resolveFields schema attributes rest

/-- The attribute names and values of an object of properties, which may be absent
(`properties_to_attributes`). -/
def resolve (schema : Schema) (properties : Value) : Except Failure (List (String × Value)) :=
  if properties.truthy then
    match properties with
    | .obj fields => resolveFields schema [] fields
    | _ => .error .noSuchMember
  else .ok []

/-! ## Building the list -/

/-- The parts of a name before and after its first colon. -/
def splitQualifier : List Char → Option (List Char × List Char)
  | [] => none
  | c :: rest =>
    if c = ':' then some ([], rest)
    else (splitQualifier rest).map fun (before, after) => (c :: before, after)

/-- The attribute of a foreign namespace with this name. -/
def foreign (name : String) (value : String) (uri : String) : Attribute :=
  match splitQualifier name.toList with
  | some (before, after) =>
    { name := .str (String.ofList after), value := .str value,
      qualifier := .str (String.ofList before), namespaceURI := .str uri }
  | none =>
    { name := .str name, value := .str value, qualifier := .str "", namespaceURI := .str uri }

/-- The space of an info, if it is foreign to HTML and SVG. -/
def foreignSpace? (info : Schema.Info) : Option String :=
  info.space.filter fun space => space != "" && space != "html" && space != "svg"

/-- The text of an attribute that is not left out. -/
def writtenValue (v : Value) : String :=
  match v with
  | .bool true => ""
  | v => v.attributeText

/-- The attribute for a name and a value, unless the value leaves it out. -/
def buildField (schema : Schema) (name : String) (v : Value) :
    Except Failure (Option Attribute) :=
  match v with
  | .bool false => .ok none
  | v => do
    let info ← schema.find name
    if info.has .boolean && !v.truthy then return none
    match foreignSpace? info with
    | none => return some { name := .str name, value := .str (writtenValue v) }
    | some space =>
      match Namespace.uri? space with
      | none => throw (.missingKey (.str space))
      | some uri => return some (foreign name (writtenValue v) uri)

/-- The attributes of an element in order (`build_attrs`). -/
def build (schema : Schema) : List (String × Value) → Except Failure (List Attribute)
  | [] => .ok []
  | (name, v) :: rest => do
    let built ← buildField schema name v
    let others ← build schema rest
    return built.toList ++ others

/-- The attributes of an element in order, by an object of their names and values. -/
def ofNames (schema : Schema) (attributes : Value) : Except Failure (List Attribute) :=
  match attributes with
  | .obj fields => build schema fields
  | _ => .error .noSuchMember

/-- The attributes that an element has for its properties. -/
def ofProperties (schema : Schema) (properties : Value) : Except Failure (List Attribute) := do
  build schema (← resolve schema properties)

/-! ## Equations -/

theorem resolveFields_cons (schema : Schema) (attributes : List (String × Value)) (name : String)
    (v : Value) (rest : List (String × Value)) :
    resolveFields schema attributes ((name, v) :: rest) =
      (resolveField schema attributes name v).bind fun attributes =>
        resolveFields schema attributes rest := rfl

theorem build_cons (schema : Schema) (name : String) (v : Value) (rest : List (String × Value)) :
    build schema ((name, v) :: rest) =
      (buildField schema name v).bind fun built =>
        (build schema rest).bind fun others => .ok (built.toList ++ others) := rfl

theorem splitQualifier_eq_some_iff {cs before after : List Char} :
    splitQualifier cs = some (before, after) ↔ cs = before ++ ':' :: after ∧ ':' ∉ before := by
  induction cs generalizing before with
  | nil => simp [splitQualifier]
  | cons c rest ih =>
    by_cases hc : c = ':'
    · subst hc
      cases before with
      | nil => simp [splitQualifier]
      | cons b before =>
        simp only [splitQualifier, if_true, Option.some.injEq, Prod.mk.injEq, List.cons_append,
          List.cons.injEq, List.mem_cons, not_or]
        constructor
        · rintro ⟨h, _⟩
          simp at h
        · rintro ⟨⟨h, _⟩, h', _⟩
          exact absurd h h'
    · simp only [splitQualifier, hc, if_false, Option.map_eq_some_iff, Prod.exists, Prod.mk.injEq]
      constructor
      · rintro ⟨b, a, h, rfl, rfl⟩
        obtain ⟨h, hb⟩ := ih.mp h
        exact ⟨by rw [h]; rfl, by simp [Ne.symm hc, hb]⟩
      · rintro ⟨h, hb⟩
        cases before with
        | nil =>
          simp only [List.nil_append, List.cons.injEq] at h
          exact absurd h.1 hc
        | cons b before =>
          simp only [List.cons_append, List.cons.injEq] at h
          simp only [List.mem_cons, not_or] at hb
          exact ⟨before, after, ih.mpr ⟨h.2, hb.2⟩, by rw [h.1], rfl⟩

end MarkupTree.Attribute
