import JobWire.Property.Basic
import JobWire.Traced

/-!
# Declared properties

A `Shape` declares the properties of a record, in order, and which of them may be null.  Checking
an object against it reports the first declared property that is at fault, so that the error does
not depend on the order in which the object was written.  Properties that are not declared are
noted and otherwise ignored.

**Results.**
* `mem_unknown_iff`: the unknown properties are those that are there and not declared.
-/

namespace JobWire

/-- A decoding step that may leave notices. -/
abbrev Decode (α : Type) := Traced DecodeError α

/-- The declared properties of a record. -/
structure Shape where
  /-- The record, as notices call it. -/
  record : String
  /-- The properties that must be there, in the order in which they are checked. -/
  names : List String
  /-- The properties that may be null. -/
  nullable : List String := []

namespace Shape

/-- The fault of one declared property. -/
def fault? (s : Shape) (o : Object) (name : String) : Option DecodeError :=
  match o.presence name with
  | .absent => some (.missing name none)
  | .null => if s.nullable.contains name then none else some (.null name none)
  | .present => none

/-- The fault of the first declared property that has one. -/
def firstFault? (s : Shape) (o : Object) : Option DecodeError :=
  s.names.findSome? (s.fault? o)

/-- The properties of an object that are not declared, in the object's order. -/
def unknown (s : Shape) (o : Object) : List String :=
  o.names.filter fun name => !s.names.contains name

/-- The object that a value must be, with every declared property in order. -/
def read (s : Shape) (v : Json) : Decode Object := do
  let o ← v.asObject
  match s.firstFault? o with
  | some e => .fail e
  | none =>
    Traced.note ((s.unknown o).map (Notice.ignored s.record))
    return o

theorem mem_unknown_iff {s : Shape} {o : Object} {name : String} :
    name ∈ s.unknown o ↔ name ∈ o.names ∧ name ∉ s.names := by
  simp [unknown]

end Shape
end JobWire
