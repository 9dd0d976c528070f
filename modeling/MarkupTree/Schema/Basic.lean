import MarkupTree.Failure
import MarkupTree.Fields
import MarkupTree.Schema.DataName

/-!
# Schemas

A schema knows attributes by their property names, and under which lower-case names each of them is
found. It is built from tables of properties and merged from other schemas; the later of two writes
to one name counts.

Results:

* `find_of_lookup`: a known name has the info of its property.
* `find_unknown`: other names are data names or plain.
-/

namespace MarkupTree

/-- Infos by property name, and property names by the lower forms of both names of each
(`Schema`). -/
structure Schema where
  infos : List (String × Schema.Info)
  aliases : List (String × String)
  space : String

namespace Schema

/-- The text that shows a schema. -/
def literal (schema : Schema) : String := "<Schema " ++ schema.space ++ ">"

/-! ## Building schemas -/

/-- Adds an info under its property name, found under both of its names. -/
def insert (schema : Schema) (info : Info) : Schema where
  infos := Fields.set info.propertyName info schema.infos
  aliases := Fields.set (Text.lower info.attributeName) info.propertyName
    (Fields.set (Text.lower info.propertyName) info.propertyName schema.aliases)
  space := schema.space

/-- The schema of a table of properties (`_define`), whose attribute names are made by
`transform`. -/
def define (properties : List (String × List Trait)) (transform : String → String)
    (space : Option String) : Schema :=
  properties.foldl
    (fun schema (name, traits) =>
      schema.insert
        { propertyName := name, attributeName := transform name, traits, space, defined := true })
    ⟨[], [], space.getD ""⟩

/-- One schema that holds what all the definitions hold (`_merge`). -/
def merge (definitions : List Schema) (space : String) : Schema :=
  definitions.foldl
    (fun merged definition =>
      { merged with
        infos := Fields.update merged.infos definition.infos
        aliases := Fields.update merged.aliases definition.aliases })
    ⟨[], [], space⟩

/-! ## Looking up names -/

/-- What is known of a name that stands in no table. -/
def unknown (name : String) : Info := (DataName.info? name).getD (.plain name)

/-- What is known of a property or attribute name, in any letter case (`find`). -/
def find (schema : Schema) (name : String) : Except Failure Info :=
  match schema.aliases.lookup (Text.lower name) with
  | none => .ok (unknown name)
  | some key => match schema.infos.lookup key with
    | some info => .ok info
    | none => .error (.missingKey (.str key))

theorem find_of_lookup {schema : Schema} {name key : String} {info : Info}
    (hn : schema.aliases.lookup (Text.lower name) = some key)
    (hp : schema.infos.lookup key = some info) : schema.find name = .ok info := by
  rw [find, hn]
  simp [hp]

theorem find_unknown {schema : Schema} {name : String}
    (h : schema.aliases.lookup (Text.lower name) = none) :
    schema.find name = .ok (unknown name) := by
  rw [find, h]

end Schema

end MarkupTree
