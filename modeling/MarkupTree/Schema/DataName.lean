import MarkupTree.Schema.Info
import MarkupTree.Text.LetterCase
import MarkupTree.Text.Word

/-!
# Names of data attributes

Names that start with `data` are known in two forms: the attribute `data-foo-bar` and the property
`dataFooBar`. A dash with a small letter behind it stands for the capital, and the other way round.

Results:

* `dash_append`: capitals are replaced one by one.
* `info?_defined`: a data name is defined, without traits and without a namespace.
-/

namespace MarkupTree.Schema.DataName

/-- Whether a character may stand in a data name. -/
def isNameChar (c : Char) : Bool := c == '-' || c == '.' || c == ':' || Text.isWordChar c

/-- Whether these characters may follow `data` (`_DATA_NAME`): at least one name character and
nothing else, but for a single line break at the end. -/
def isRest (rest : List Char) : Bool :=
  let body := if rest.getLast? == some '\n' then rest.dropLast else rest
  !body.isEmpty && body.all isNameChar

/-- The characters after `data`, which may be in capitals, if the text is a data name. -/
def rest? : List Char → Option (List Char)
  | d :: a :: t :: a' :: rest =>
    if [d.toLower, a.toLower, t.toLower, a'.toLower] = ['d', 'a', 't', 'a'] ∧ isRest rest then
      some rest
    else none
  | _ => none

/-- Replaces each dash before a small letter, together with the letter, by the capital
(`_DASH_LETTER`). -/
def capitalize : List Char → List Char
  | '-' :: c :: rest =>
    if c.isLower then c.toUpper :: capitalize rest else '-' :: capitalize (c :: rest)
  | c :: rest => c :: capitalize rest
  | [] => []

/-- Puts the first character in upper case. -/
def raiseFirst : List Char → List Char
  | [] => []
  | c :: rest => Text.upperChar c ++ rest

/-- Replaces each capital by a dash and the small letter (`_CAPITAL`). -/
def dash (cs : List Char) : List Char :=
  cs.flatMap fun c => if c.isUpper then ['-', c.toLower] else [c]

/-- Puts a dash in front unless there is one. -/
def ensureDash : List Char → List Char
  | '-' :: rest => '-' :: rest
  | cs => '-' :: cs

/-- Whether a dash stands before a small letter. -/
def hasDashedLetter : List Char → Bool
  | '-' :: c :: rest => c.isLower || hasDashedLetter (c :: rest)
  | _ :: rest => hasDashedLetter rest
  | [] => false

/-- The property name of the data attribute with this rest after its first dash. -/
def propertyName (rest : List Char) : String :=
  String.ofList ("data".toList ++ raiseFirst (capitalize rest))

/-- The attribute name of the data property `name` with this rest. A rest that has both forms mixed
is no property name; the attribute then has the same name. -/
def attributeName (name : String) (rest : List Char) : String :=
  if hasDashedLetter rest then name
  else String.ofList ("data".toList ++ ensureDash (dash rest))

/-- What is known of a data name. -/
def info? (name : String) : Option Info :=
  match rest? name.toList with
  | none => none
  | some ('-' :: rest) =>
    some { propertyName := propertyName rest, attributeName := name, defined := true }
  | some rest =>
    some { propertyName := name, attributeName := attributeName name rest, defined := true }

@[simp] theorem dash_append (cs ds : List Char) : dash (cs ++ ds) = dash cs ++ dash ds := by
  simp [dash]

theorem info?_eq_none {name : String} (h : rest? name.toList = none) : info? name = none := by
  simp [info?, h]

theorem info?_defined {name : String} {info : Info} (h : info? name = some info) :
    info.defined = true ∧ info.traits = [] ∧ info.space = none := by
  unfold info? at h
  split at h
  · contradiction
  · cases h
    exact ⟨rfl, rfl, rfl⟩
  · cases h
    exact ⟨rfl, rfl, rfl⟩

end MarkupTree.Schema.DataName
