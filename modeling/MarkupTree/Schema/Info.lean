import MarkupTree.Value.Text

/-!
# What is known of an attribute

The property name used in source trees, the attribute name used in markup, the namespace and the
traits of its values.

Results:

* `has_ofMask`: a trait belongs to a mask when its bit is set.
-/

namespace MarkupTree.Schema

/-- How the values of an attribute may behave. -/
inductive Trait where
  | boolean
  | booleanish
  | overloadedBoolean
  | number
  | spaceSeparated
  | commaSeparated
  | commaOrSpaceSeparated
deriving DecidableEq, Repr

namespace Trait

/-- All traits, in the order of their bits. -/
def all : List Trait :=
  [boolean, booleanish, overloadedBoolean, number, spaceSeparated, commaSeparated,
   commaOrSpaceSeparated]

/-- The bit of a trait in a mask. -/
def bit : Trait → Nat
  | boolean => 0
  | booleanish => 1
  | overloadedBoolean => 2
  | number => 3
  | spaceSeparated => 4
  | commaSeparated => 5
  | commaOrSpaceSeparated => 6

/-- Whether the bit of the trait is set in a mask, which is in two's complement. -/
def inMask (mask : Int) (trait : Trait) : Bool := (mask >>> trait.bit) % 2 == 1

/-- The traits whose bits are set. -/
def ofMask (mask : Int) : List Trait := all.filter (inMask mask)

theorem mem_all (trait : Trait) : trait ∈ all := by
  cases trait <;> decide

end Trait

/-- What is known of an attribute (`Info`). -/
structure Info where
  propertyName : String
  attributeName : String
  traits : List Trait := []
  space : Option String := none
  /-- Whether the name follows a rule or stands in a table. -/
  defined : Bool := false
deriving DecidableEq, Repr

namespace Info

/-- What is known of a name that no rule and no table knows. -/
def plain (name : String) : Info where
  propertyName := name
  attributeName := name

/-- Whether the values of the attribute have a trait. -/
def has (info : Info) (trait : Trait) : Bool := info.traits.contains trait

/-- The text that shows an info. -/
def literal (info : Info) : String :=
  "Info(" ++ Text.Quoted.quote info.propertyName ++ ", " ++ Text.Quoted.quote info.attributeName ++
    ", space=" ++ (Value.ofText? info.space).literal ++ ")"

@[simp] theorem has_plain (name : String) (trait : Trait) : (plain name).has trait = false := rfl

theorem has_ofMask (propertyName attributeName : String) (mask : Int) (trait : Trait) :
    has { propertyName, attributeName, traits := Trait.ofMask mask } trait = trait.inMask mask := by
  rw [has, Trait.ofMask, Bool.eq_iff_iff, List.contains_iff_mem, List.mem_filter]
  simp [Trait.mem_all]

end Info

end MarkupTree.Schema
