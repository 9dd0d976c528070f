import MarkupTree.Value.Equality
import MarkupTree.Value.Text

/-!
# Attributes

An attribute of an element has a name and a value. In a foreign namespace it also has a qualifier,
which stands before a colon in markup, and the address of the namespace. Some namespaces of elements
and attributes are known by names.

Results:

* `toValue_injective`: the object that shows an attribute determines it, apart from the qualifier
  of an attribute without a namespace.
-/

namespace MarkupTree

/-! ## Namespaces -/

namespace Namespace

def html : String := "http://www.w3.org/1999/xhtml"

def mathML : String := "http://www.w3.org/1998/Math/MathML"

def svg : String := "http://www.w3.org/2000/svg"

/-- The namespaces by name (`NAMESPACES`). -/
def table : List (String × String) :=
  [("html", html), ("mathml", mathML), ("svg", svg), ("xlink", "http://www.w3.org/1999/xlink"),
   ("xml", "http://www.w3.org/XML/1998/namespace"), ("xmlns", "http://www.w3.org/2000/xmlns/")]

/-- The address of the namespace with this name. -/
def uri? (name : String) : Option String := table.lookup name

end Namespace

/-! ## Attributes -/

/-- An attribute of an element (`Attribute`). Null stands for no qualifier and for no namespace. -/
structure Attribute where
  name : Value
  value : Value
  qualifier : Value := .null
  namespaceURI : Value := .null

namespace Attribute

/-- Whether the attribute is in a namespace. -/
def isForeign (a : Attribute) : Bool :=
  match a.namespaceURI with
  | .null => false
  | _ => true

/-- The text that shows an attribute. -/
def literal (a : Attribute) : String :=
  let start := "Attribute(" ++ a.name.literal ++ ", " ++ a.value.literal
  if a.isForeign then
    start ++ ", " ++ "prefix=" ++ a.qualifier.literal ++ ", namespace=" ++
      a.namespaceURI.literal ++ ")"
  else start ++ ")"

/-- The attribute as an object (`_attr_to_dict`). -/
def toValue (a : Attribute) : Value :=
  if a.isForeign then
    .obj [("name", a.name), ("value", a.value), ("prefix", a.qualifier),
      ("namespace", a.namespaceURI)]
  else .obj [("name", a.name), ("value", a.value)]

/-- The attribute that an object shows. -/
def ofValue (v : Value) : Attribute :=
  let field := fun key => match v with
    | .obj fields => (fields.lookup key).getD .null
    | _ => .null
  { name := field "name", value := field "value", qualifier := field "prefix",
    namespaceURI := field "namespace" }

/-- The value of the first attribute with this name and without a namespace (`get_attribute`). -/
def valueOf? (attrs : List Attribute) (name : Value) : Option Value :=
  (attrs.find? fun a => a.name.same name && !a.isForeign).map value

/-- Whether two attributes are the same. -/
def same (a b : Attribute) : Bool :=
  a.name.same b.name && a.value.same b.value && a.qualifier.same b.qualifier &&
    a.namespaceURI.same b.namespaceURI

/-- The name under which the attribute is shown and sorted. -/
def displayName (a : Attribute) : Value :=
  if a.isForeign && a.qualifier.truthy then
    .str (a.qualifier.display ++ " " ++ a.name.display)
  else a.name

theorem isForeign_eq_false {a : Attribute} : a.isForeign = false ↔ a.namespaceURI = .null := by
  unfold isForeign
  split
  · rename_i h
    simp [h]
  · rename_i h
    simpa using h

theorem toValue_injective {a b : Attribute} (hq : a.isForeign = false → a.qualifier = b.qualifier)
    (h : a.toValue = b.toValue) : a = b := by
  unfold toValue at h
  obtain ⟨n, v, q, u⟩ := a
  obtain ⟨n', v', q', u'⟩ := b
  split at h <;> split at h <;> simp at h
  · simp [h]
  · rename_i ha hb
    have hu := isForeign_eq_false.mp (Bool.eq_false_iff.mpr ha)
    have hu' := isForeign_eq_false.mp (Bool.eq_false_iff.mpr hb)
    have := hq (Bool.eq_false_iff.mpr ha)
    simp at hu hu' this
    simp [h, hu, hu', this]

end Attribute

end MarkupTree
