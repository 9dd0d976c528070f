import MarkupTree.Schema.Basic
import MarkupTree.Schema.Table.Html
import MarkupTree.Schema.Table.Shared
import MarkupTree.Schema.Table.Svg

/-!
# The schemas of HTML and SVG

Both hold the attributes of the three foreign namespaces and those of accessible applications, and
then their own.

Results:

* `ofSpace?_html`, `ofSpace?_svg`: the names under which the two are known.
-/

namespace MarkupTree.Schema

/-- The attribute name that a table gives for the lower form of a property, or the lower form
(`_case_insensitive`). -/
def caseInsensitive (attributes : List (String × String)) (property : String) : String :=
  (attributes.lookup (Text.lower property)).getD (Text.lower property)

/-- The attribute name that a table gives for a property, or the property itself
(`_case_sensitive`). -/
def caseSensitive (attributes : List (String × String)) (property : String) : String :=
  (attributes.lookup property).getD property

/-- The lower form of a name after its first `n` characters, with other characters in front. -/
def replaceStart (start : String) (n : Nat) (name : String) : String :=
  start ++ Text.lower (String.ofList (name.toList.drop n))

/-- The attribute name of a property of accessible applications. -/
def ariaAttribute (property : String) : String :=
  if property = "role" then property else replaceStart "aria-" 4 property

def xlink : Schema := define Table.xlinkProperties (replaceStart "xlink:" 5) (some "xlink")

def xml : Schema := define Table.xmlProperties (replaceStart "xml:" 3) (some "xml")

def xmlns : Schema :=
  define Table.xmlnsProperties (caseInsensitive Table.xmlnsAttributes) (some "xmlns")

def aria : Schema := define Table.ariaProperties ariaAttribute none

/-- The attributes of HTML alone. -/
def htmlBase : Schema :=
  define (Table.htmlProperties ++ Table.eventProperties) (caseInsensitive Table.htmlAttributes)
    (some "html")

/-- The attributes of SVG alone. -/
def svgBase : Schema :=
  define (Table.svgProperties ++ Table.eventProperties)
    (caseSensitive (Table.svgAttributes ++ Table.eventHandlers.map fun name =>
      (name, Text.lower name)))
    (some "svg")

/-- The schema of HTML elements. -/
def html : Schema := merge [xml, xlink, xmlns, aria, htmlBase] "html"

/-- The schema of SVG elements. -/
def svg : Schema := merge [xml, xlink, xmlns, aria, svgBase] "svg"

/-- The schema that a value names (`get_schema`). -/
def ofSpace? (space : Value) : Except Failure Schema :=
  if space.isText "html" then .ok html
  else if space.isText "svg" then .ok svg
  else .error (.unknownSpace space)

theorem ofSpace?_html : ofSpace? (.str "html") = .ok html := by
  rw [ofSpace?]
  simp

theorem ofSpace?_svg : ofSpace? (.str "svg") = .ok svg := by
  rw [ofSpace?]
  simp [Value.isText]

end MarkupTree.Schema
