import JobWire.Job.Wire

/-!
# Priority patterns

A worker drains queues in the order of the patterns that their names match, and may do so fairly.
On the wire the property `fairly` may be left out, and is false then; it is not a declared property,
so it is noted as unknown when it is there.
-/

namespace JobWire

/-- Patterns of queue names in order of priority. -/
structure PriorityPattern where
  pattern : List String
  fairly : Bool
deriving DecidableEq

/-- The fields given for a priority pattern. -/
structure PriorityPatternDraft where
  pattern : Option (List String) := none
  fairly : Bool := false

/-- The priority pattern with the given fields. -/
def PriorityPatternDraft.build (d : PriorityPatternDraft) : Built PriorityPattern := do
  let slot := Slot.mk "QueuePriorityPattern"
  return {
    pattern := ← (slot "pattern").texts (← (slot "pattern").given d.pattern)
    fairly := d.fairly }

namespace PriorityPattern

/-- The values that a priority pattern accepts. -/
def Valid (p : PriorityPattern) : Prop := NoBlankItem p.pattern

/-- The declared properties of a priority pattern. -/
def shape : Shape := ⟨"queue priority pattern", ["pattern"], []⟩

/-- Whether the patterns are drained fairly. -/
def readFairly (o : Object) : Decoded Bool :=
  match o.get? "fairly" with
  | none => .ok false
  | some v => v.asBool "fairly"

/-- The fields of a priority pattern, read from its properties. -/
def draft (o : Object) : Decode PriorityPatternDraft := do
  return {
    pattern := ← o.strings "pattern"
    fairly := ← readFairly o }

/-- The priority pattern that a value is. -/
def ofJson (v : Json) : Decode PriorityPattern := do
  let o ← shape.read v
  let d ← draft o
  d.build

/-- The value of a priority pattern. -/
def toJson (p : PriorityPattern) : Json :=
  .obj [("fairly", .bool p.fairly), ("pattern", .ofStrings p.pattern)]

instance : Wire PriorityPattern := ⟨ofJson, toJson⟩

end PriorityPattern
end JobWire
