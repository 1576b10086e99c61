import JobWire.Constraint
import JobWire.Json.Parser
import JobWire.Json.Printer
import JobWire.Property.Shape

/-!
# Records on the wire

A type of records is a `Wire` type when its values are decoded from and encoded to JSON values.  A
document arrives as text or as bytes; decoding reads it as JSON and then decodes the value, and
encoding renders the encoded value.
-/

namespace JobWire

/-- A type whose values have a form on the wire. -/
class Wire (α : Type) where
  ofJson : Json → Decode α
  toJson : α → Json

/-- A document as it arrives. -/
inductive Document where
  | text (s : String)
  | bytes (b : ByteArray)

/-- The JSON value of a document. -/
def Document.json : Document → Decode Json
  | text s => Traced.ofExcept ((Json.parse s).elim (.error .invalidJson) .ok)
  | bytes b => Traced.ofExcept ((Json.parseBytes b).elim (.error .invalidJson) .ok)

instance : MonadLift (Except Invalid) (Traced DecodeError) where
  monadLift b := Traced.ofExcept (b.mapError DecodeError.invalid)

/-- The value that a document holds. -/
def decode (α : Type) [Wire α] (d : Document) : Decode α := do
  Wire.ofJson (← d.json)

/-- The text of a value on the wire. -/
def encode {α : Type} [Wire α] (a : α) : String :=
  (Wire.toJson a).render

end JobWire
