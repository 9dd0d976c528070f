import MarkupTree.Node.Data
import MarkupTree.Proofs.Conversion.Made
import MarkupTree.Proofs.Json.RoundTrip
import MarkupTree.Proofs.Node.Data
import MarkupTree.Proofs.Source.Parts

/-!
# JSON texts of converted trees

The JSON text of a converted tree can be read back.

Results:

* `every_values`: what the nodes of a converted tree hold is inside the source.
* `read_toJson_documentTree`: the text of a converted tree is read back to its data, and stands on
  one line if it is not indented.
* `not_forall_toJson`: not every width gives a text.
-/

namespace MarkupTree.Conversion

open Command (Space)
open Source (field fieldsOf Place)
open Value (HasDistinctKeys)

/-! ## The data of the nodes -/

/-- If the keys in the source at a place are distinct, so are those in the data of its node. -/
theorem every_values {space : Space} {place : Place} {node : Node}
    (h : Step space.schema place node) (hp : place.value.Every HasDistinctKeys) :
    ∀ v ∈ node.label.values, v.Every HasDistinctKeys := by
  have hfields : (Value.obj place.fields).Every HasDistinctKeys := Source.every_fieldsOf hp
  have hkind := h.kind
  have hname := h.name
  have helement := h.element
  have hlocation := h.location
  obtain ⟨⟨kind, name, location⟩, children, content⟩ := node
  simp only [Node.label_mk] at hkind hname helement hlocation
  rw [Node.Label.values, List.cons_append, List.forall_mem_cons, List.forall_mem_append]
  have hloc : ∀ v ∈ (location.map Location.parts).getD [], v.Every HasDistinctKeys := by
    cases location with
    | none => exact List.forall_mem_nil _
    | some location => exact Source.every_location hfields hlocation
  subst hname
  refine ⟨?_, ?_, hloc⟩
  · cases kind with
    | element tag attrs uri => exact hfields.of_lookup hkind.2
    | plain => exact hkind.elim
    | parent => exact hkind.elim
    | _ => exact Value.every_distinct_str _
  · cases kind with
    | document mode =>
      obtain ⟨-, rfl⟩ := hkind
      simp [Node.Kind.values]
    | element tag attrs uri =>
      obtain ⟨⟨list, rfl, hattrs⟩, huri⟩ := helement tag attrs uri rfl
      rw [elementNamespace_schema] at huri
      obtain rfl := Except.ok.inj huri
      show ∀ v ∈ tag :: .str space.uri :: list.flatMap Attribute.parts, _
      rw [List.forall_mem_cons, List.forall_mem_cons]
      refine ⟨hfields.of_lookup hkind.2, Value.every_distinct_str _, fun v hv => ?_⟩
      obtain ⟨a, ha, hv⟩ := List.mem_flatMap.mp hv
      obtain ⟨entry, -, rfl⟩ := Attribute.exists_entry_of_mem hattrs ha
      exact Attribute.every_parts_toAttribute entry v hv
    | text value =>
      obtain ⟨-, rfl⟩ := hkind
      simp [Node.Kind.values, Source.every_payload hfields]
    | comment data =>
      obtain ⟨-, rfl⟩ := hkind
      simp [Node.Kind.values, Source.every_payload hfields]
    | doctype name publicId systemId =>
      obtain ⟨-, rfl, rfl, rfl⟩ := hkind
      simp [Node.Kind.values]
    | _ => exact List.forall_mem_nil _

/-- The keys in the data of a converted tree are distinct, if those of the source are. -/
theorem every_toValue_documentTree {tree space data : Value} {asFragment : Bool} {node : Node}
    (h : documentTree tree space asFragment = .ok node) (htree : tree.Every HasDistinctKeys)
    (hv : node.toValue = .ok data) : data.Every HasDistinctKeys := by
  obtain ⟨start, hn⟩ := exists_space_of_documentTree h
  apply Node.every_toValue _ hv
  intro n hmem
  obtain ⟨space', place, hw, hstep⟩ := exists_step_of_mem_preorder hn hmem
  have hstart : (Place.start tree asFragment).value.Every HasDistinctKeys := htree
  exact every_values hstep (Place.every_of_mem_walk hstart hw)

/-! ## The text -/

theorem toJson_eq_ok {node : Node} {data : Value} {indent : Option Int} {text : String}
    (hv : node.toValue = .ok data) (h : node.toJson indent = .ok text) :
    text = Json.render data indent := by
  rw [Node.toJson, hv] at h
  cases indent with
  | none => exact (Outcome.pure_eq_ok.mp h).symm
  | some width =>
    have hw : (Width.check width >>= fun _ => pure (Json.render data (some width))) = .ok text := h
    obtain ⟨-, -, hw⟩ := Outcome.bind_eq_ok.mp hw
    exact (Outcome.pure_eq_ok.mp hw).symm

theorem toJson_of_isWord {node : Node} {data : Value} (hv : node.toValue = .ok data) {width : Int}
    (hw : Width.isWord width = true) :
    node.toJson (some width) = .ok (Json.render data (some width)) := by
  have hcheck : ∀ w ∈ some width, Width.check w = .ok () := by
    rintro w ⟨⟩
    exact Width.check_eq_ok_iff.mpr hw
  rw [Node.toJson_of_check hcheck, hv]
  rfl

theorem toJson_of_not_isWord {node : Node} {data : Value} (hv : node.toValue = .ok data)
    {width : Int} (hw : Width.isWord width = false) :
    node.toJson (some width) = .error .tooLarge := by
  rw [Node.toJson, hv]
  show (Width.check width >>= fun _ => pure (Json.render data (some width))) = _
  rw [Width.check, hw]
  rfl

/-- If the data of a converted tree hold no floating-point number, every text of the tree is read
back to exactly these data, however it is indented. There is a text on one line, which holds no
control characters, and one for each width that is a machine word. A width that is none is refused,
also if it is negative. -/
theorem read_toJson_documentTree {tree space data : Value} {asFragment : Bool} {node : Node}
    (htree : tree.Every HasDistinctKeys) (h : documentTree tree space asFragment = .ok node)
    (hv : node.toValue = .ok data) (hfloat : data.Every Value.IsNoFloat) :
    (∀ indent text, node.toJson indent = .ok text → Json.read text = .ok data) ∧
      (∃ text, node.toJson none = .ok text ∧ ∀ c ∈ text.toList, 0x20 ≤ c.toNat) ∧
      (∀ width, -0x8000000000000000 ≤ width → width ≤ 0x7fffffffffffffff →
        ∃ text, node.toJson (some width) = .ok text) ∧
      ∀ width, width < -0x8000000000000000 ∨ 0x7fffffffffffffff < width →
        node.toJson (some width) = .error .tooLarge := by
  have hdata : data.Every Json.IsReadable := (every_toValue_documentTree h htree hv).and hfloat
  refine ⟨?_, ?_, ?_, ?_⟩
  · intro indent text ht
    rw [toJson_eq_ok hv ht]
    exact Json.read_render hdata indent
  · refine ⟨Json.render data none, ?_, Json.isPrintable_render hfloat⟩
    rw [Node.toJson_of_check (by simp), hv]
    rfl
  · intro width hlow hhigh
    exact ⟨_, toJson_of_isWord hv (Width.isWord_iff.mpr ⟨hlow, hhigh⟩)⟩
  · intro width hout
    apply toJson_of_not_isWord hv
    rw [Bool.eq_false_iff, Ne, Width.isWord_iff]
    omega

/-- A list of characters that are escaped, a character outside of the basic plane, a number beyond
all machine words, and an object with an empty key. -/
def awkwardList : Value :=
  .arr [.str "a\x00\n\"\\é😀", .int ⟨-0x10000000000000000000, by decide⟩, .obj [("", .arr [])]]

/-- A text node that holds such a list. -/
def awkward : Value := .obj [("type", .str "text"), ("value", awkwardList)]

theorem read_toJson_documentTree_awkward :
    awkward.Every HasDistinctKeys ∧
      ∃ node data, documentTree awkward (.str "html") false = .ok node ∧
        node.toValue = .ok data ∧ data.Every Value.IsNoFloat ∧
        (∀ indent text, node.toJson indent = .ok text → Json.read text = .ok data) ∧
        (∃ text, node.toJson none = .ok text ∧ ∀ c ∈ text.toList, 0x20 ≤ c.toNat) ∧
        (∀ width, -0x8000000000000000 ≤ width → width ≤ 0x7fffffffffffffff →
          ∃ text, node.toJson (some width) = .ok text) ∧
        ∀ width, width < -0x8000000000000000 ∨ 0x7fffffffffffffff < width →
          node.toJson (some width) = .error .tooLarge := by
  have htree : awkward.Every HasDistinctKeys := by simp [awkward, awkwardList]
  have h : documentTree awkward (.str "html") false = .ok (.ofKind (.text awkwardList) none []) :=
    rfl
  have hv := Node.toValue_text awkwardList none []
  have hfloat : (Value.obj (("nodeName", .str "#text") :: ("value", awkwardList) ::
      Node.locationFields none)).Every Value.IsNoFloat := by
    simp [awkwardList, Node.locationFields]
  exact ⟨htree, _, _, h, hv, hfloat, read_toJson_documentTree htree h hv hfloat⟩

/-- A text node. -/
def letter : Value := .obj [("type", .str "text"), ("value", .str "a")]

/-- Not every width gives a text: one that is no machine word does not, although all widths below
zero stand for zero. -/
theorem not_forall_toJson :
    ¬ ∀ (tree space data : Value) (asFragment : Bool) (node : Node),
      tree.Every HasDistinctKeys → documentTree tree space asFragment = .ok node →
        node.toValue = .ok data → data.Every Value.IsNoFloat →
          ∀ indent, ∃ text, node.toJson indent = .ok text ∧ Json.read text = .ok data := by
  intro h
  have htree : letter.Every HasDistinctKeys := by simp [letter]
  have hnode : documentTree letter (.str "html") false = .ok (.ofKind (.text (.str "a")) none []) :=
    rfl
  have hv := Node.toValue_text (.str "a") none []
  obtain ⟨text, ht, -⟩ := h letter (.str "html") _ false _ htree hnode hv
    (by simp [Node.locationFields]) (some (-0x8000000000000001))
  rw [Node.toJson, hv] at ht
  contradiction

end MarkupTree.Conversion
