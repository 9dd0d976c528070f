import MarkupTree.Conversion
import MarkupTree.Forest.Walk
import MarkupTree.Failure

/-!
# Editing a forest

Operations on the nodes of a forest by their ids. An operation that fails leaves the forest as it
was; appending and removing children never changes a link to a parent.
-/

namespace MarkupTree.Forest

/-! ## Selecting nodes -/

/-- A step from a node to one below it. -/
inductive Step where
  | child (index : Int)
  | content

/-- The position of an index in a list of some length; negative indices count from the end. -/
def position? (index : Int) (length : Nat) : Option Nat :=
  let i := if index < 0 then index + length else index
  if 0 ≤ i ∧ i < length then some i.toNat else none

/-- The node that a path leads to. A content that is missing is only reached by a last step. -/
def follow (forest : Forest) (n : Option Nat) : List Step → Except Failure (Option Nat)
  | [] => .ok n
  | step :: rest =>
    match n with
    | none => .error .noSuchMember
    | some n =>
      let cell := forest.cell n
      match step with
      | .child index =>
        if !cell.label.kind.hasChildren then .error .noSuchMember
        else match (position? index cell.children.length).bind (cell.children[·]?) with
          | some m => follow forest (some m) rest
          | none => .error .outOfRange
      | .content =>
        if cell.label.kind.hasContent then follow forest cell.content rest
        else .error .noSuchMember

/-- Binds an id to the node that a path from another node leads to, if there is one. -/
def select (forest : Forest) (id start : String) (path : List Step) :
    Except Failure (Option Nat × Forest) := do
  let n ← forest.find start
  match ← forest.follow (some n) path with
  | some m => return (some m, forest.bind id m)
  | none => return (none, forest)

/-- Removes an id. -/
def drop (forest : Forest) (id : String) : Except Failure Forest := do
  let _ ← forest.find id
  return { forest with ids := Fields.erase id forest.ids }

/-- The ids in the order of their code points. -/
def sortedIds (ids : List String) : List String := ids.mergeSort fun a b => decide (a ≤ b)

/-- The ids that are bound to a place. -/
def idsOf (forest : Forest) (n : Nat) : List String :=
  sortedIds ((forest.ids.filter (·.2 == n)).map Prod.fst)

/-! ## Children and parents -/

/-- Adds a node at the end of the children of another; the result is their number. -/
def append (forest : Forest) (id child : String) : Except Failure (Nat × Forest) := do
  let n ← forest.find id
  let cell := forest.cell n
  if !cell.label.kind.hasChildren then throw .noSuchMember
  let m ← forest.find child
  return (cell.children.length + 1,
    forest.modify n fun cell => { cell with children := cell.children ++ [m] })

/-- Removes the child at an index; the result is its place. -/
def pop (forest : Forest) (id : String) (index : Int) : Except Failure (Nat × Forest) := do
  let n ← forest.find id
  let cell := forest.cell n
  if !cell.label.kind.hasChildren then throw .noSuchMember
  if !Width.isWord index then throw .tooLarge
  let some i := position? index cell.children.length | throw .outOfRange
  let some m := cell.children[i]? | throw .outOfRange
  return (m, forest.modify n fun cell => { cell with children := cell.children.eraseIdx i })

/-- Links a node to another node, or to none, as its parent. -/
def setParent (forest : Forest) (id : String) (parent : Option String) :
    Except Failure Forest := do
  let n ← forest.find id
  let p ← parent.mapM forest.find
  return forest.modify n fun cell => { cell with parent := p }

/-- Whether a node has children. -/
def hasChildNodes (forest : Forest) (id : String) : Except Failure Bool := do
  let cell := forest.cell (← forest.find id)
  if !cell.label.kind.hasChildren then throw .noSuchMember
  return !cell.children.isEmpty

/-! ## Fields -/

/-- A new value for a field of a node. -/
inductive Change where
  | nodeName (name : Value)
  | location (location : Option Location)
  | content (id : Option String)
  | attrs (attrs : Option (List Attribute))
  | tagName (tag : Value)
  | namespaceURI (uri : Value)
  | mode (mode : Value)
  | value (value : Value)
  | data (data : Value)
  | doctypeName (name : Value)
  | publicId (publicId : Value)
  | systemId (systemId : Value)

/-- The kind after a change of a field that it has. -/
def changeKind : Change → Node.Kind → Option Node.Kind
  | .attrs attrs, .element tag _ uri => some (.element tag attrs uri)
  | .tagName tag, .element _ attrs uri => some (.element tag attrs uri)
  | .namespaceURI uri, .element tag attrs _ => some (.element tag attrs uri)
  | .mode mode, .document _ => some (.document mode)
  | .value value, .text _ => some (.text value)
  | .data data, .comment _ => some (.comment data)
  | .doctypeName name, .doctype _ publicId systemId => some (.doctype name publicId systemId)
  | .publicId publicId, .doctype name _ systemId => some (.doctype name publicId systemId)
  | .systemId systemId, .doctype name publicId _ => some (.doctype name publicId systemId)
  | _, _ => none

/-- Changes a field of a node. -/
def change (forest : Forest) (id : String) (c : Change) : Except Failure Forest := do
  let n ← forest.find id
  match c with
  | .nodeName name =>
    return forest.modify n fun cell => { cell with label := { cell.label with name := name } }
  | .location location =>
    return forest.modify n fun cell =>
      { cell with label := { cell.label with location := location } }
  | .content content =>
    let m ← content.mapM forest.find
    if !(forest.cell n).label.kind.hasContent then throw .noSuchMember
    return forest.modify n fun cell => { cell with content := m }
  | c =>
    match changeKind c (forest.cell n).label.kind with
    | some kind =>
      return forest.modify n fun cell => { cell with label := { cell.label with kind := kind } }
    | none => throw .noSuchMember

/-- The list of attributes of an element. -/
def attributes (forest : Forest) (id : String) : Except Failure (List Attribute) := do
  match (forest.cell (← forest.find id)).label.kind with
  | .element _ (some attrs) _ => return attrs
  | .element _ none _ => throw .wrongType
  | _ => throw .noSuchMember

/-- The value of the attribute of an element with this name and without a namespace. -/
def getAttribute (forest : Forest) (id : String) (name : Value) : Except Failure Value := do
  return (Attribute.valueOf? (← forest.attributes id) name).getD .null

/-! ## New nodes -/

/-- Plants the document tree of a source tree. -/
def convert (forest : Forest) (id : String) (tree space : Value) (asFragment : Bool) :
    Except Failure Forest := do
  return forest.plant id (← Conversion.documentTree tree space asFragment)

/-! ## Laws -/

end MarkupTree.Forest
