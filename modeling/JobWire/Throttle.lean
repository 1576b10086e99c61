import JobWire.Property.Elements
import JobWire.Wire

/-!
# Throttles

A throttle limits how many jobs run at a time.  A maximum of zero is no limit, and a negative time
to live means that the throttle does not expire.
-/

namespace JobWire

/-- A named limit on concurrency. -/
structure Throttle where
  id : String
  maximum : Int
  ttl : Int
deriving DecidableEq

/-- The fields given for a throttle. -/
structure ThrottleDraft where
  id : Option String := none
  maximum : Option Int := none
  ttl : Option Int := none

/-- The throttle with the given fields. -/
def ThrottleDraft.build (d : ThrottleDraft) : Built Throttle := do
  let slot := Slot.mk "Throttle"
  return {
    id := ← (slot "id").text d.id
    maximum := ← (slot "maximum").given d.maximum
    ttl := ← (slot "ttl").given d.ttl }

namespace Throttle

/-- The values that a throttle accepts. -/
def Valid (t : Throttle) : Prop := NotBlank t.id

/-- The declared properties of a throttle. -/
def shape : Shape := ⟨"throttle", ["id", "maximum", "ttl"], []⟩

/-- The fields of a throttle, read from its properties. -/
def draft (o : Object) : Decoded ThrottleDraft := do
  return {
    id := ← o.string "id"
    maximum := ← o.int "maximum"
    ttl := ← o.int "ttl" }

/-- The throttle that a value is. -/
def ofJson (v : Json) : Decode Throttle := do
  let o ← shape.read v
  let d ← draft o
  d.build

/-- The value of a throttle. -/
def toJson (t : Throttle) : Json :=
  .obj [("id", .str t.id), ("maximum", .int t.maximum), ("ttl", .int t.ttl)]

instance : Wire Throttle := ⟨ofJson, toJson⟩

end Throttle
end JobWire
