import JobWire.Property.Shape

/-!
# List properties

The server cannot tell an empty list from an empty object: an empty list may arrive as `[]` or as
`{}`.  Both are read as the empty list, and an object that does have properties is an error.

**Results.**
* `elements_emptyObject`: the empty object is read as the empty array is.
-/

namespace JobWire
namespace Json

/-- The elements of the value of a list property. -/
def elements (name : String) : Json → Decoded (List Json)
  | null => .error (.null name none)
  | obj [] => .ok []
  | obj members => .error (.nonEmptyObject name members.length)
  | arr items => .ok items
  | v => .error (wrongShape name DecodeError.listShape v)

/-- The decoded elements of the value of a list property, up to the first that fails. -/
def list {α : Type} (name : String) (item : Json → Decode α) (v : Json) : Decode (List α) := do
  Traced.each item (← elements name v)

/-- The error of a null element. -/
def nullElement (name : String) : DecodeError :=
  .null name (some ("Value cannot include null. (Parameter '" ++ name ++ "')"))

/-- A string element of a list property. -/
def stringElement (name : String) : Json → Decode String
  | str s => .ok s
  | null => .fail (nullElement name)
  | v => .fail (wrongShape name "an array of strings" v)

/-- An integer element of a list property. -/
def intElement (name : String) : Json → Decode Int
  | int i => .ok i
  | null => .fail (nullElement name)
  | v => .fail (wrongShape name "an array of integers" v)

theorem elements_emptyObject (name : String) : elements name (obj []) = elements name (arr []) :=
  rfl

end Json

namespace Object

/-- A list property. -/
def list {α : Type} (o : Object) (name : String) (item : Json → Decode α) : Decode (List α) := do
  (← o.value name).list name item

/-- A list property of strings. -/
def strings (o : Object) (name : String) : Decode (List String) :=
  o.list name (Json.stringElement name)

/-- A list property of integers. -/
def ints (o : Object) (name : String) : Decode (List Int) :=
  o.list name (Json.intElement name)

end Object
end JobWire
