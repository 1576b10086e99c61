import JobWire.Error
import JobWire.Json.Basic
import JobWire.Text.Blank

/-!
# Properties of a JSON object

A property of an object is absent, or present and null, or present with a value; absent and null
are different faults and are never confused.  The typed readers take one property out of an object
and refuse a value of another kind.  Booleans and floating-point numbers are not integers.

**Results.**
* `presence_eq_absent_iff`, `presence_eq_null_iff`: what the presence of a property says.
-/

namespace JobWire

/-- A decoding step that leaves no notice. -/
abbrev Decoded (α : Type) := Except DecodeError α

/-- How far a property is there. -/
inductive Presence where
  | absent | null | present
deriving DecidableEq

/-- The name of a presence. -/
def Presence.name : Presence → String
  | absent => "absent"
  | null => "null"
  | present => "present"

namespace Json

/-- The error of a value of the wrong kind. -/
def wrongShape (name expected : String) (v : Json) : DecodeError :=
  .unexpectedShape name expected v.kind.name

/-- The object that a value must be. -/
def asObject : Json → Decoded Object
  | obj members => .ok members
  | _ => .error (.malformedRoot none)

/-- The string that the value of a property must be. -/
def asString (name : String) : Json → Decoded String
  | str s => .ok s
  | v => .error (wrongShape name "string" v)

/-- The integer that the value of a property must be. -/
def asInt (name : String) : Json → Decoded Int
  | int i => .ok i
  | v => .error (wrongShape name "integer" v)

/-- The truth value that the value of a property must be. -/
def asBool (name : String) : Json → Decoded Bool
  | bool b => .ok b
  | v => .error (wrongShape name "boolean" v)

/-- The string that the value of a property is, where null and blank mean that there is none. -/
def asOptionalString (name : String) : Json → Decoded (Option String)
  | null => .ok none
  | str s => .ok (Text.unlessBlank s)
  | v => .error (wrongShape name "string" v)

end Json

namespace Object

/-- The presence of a property. -/
def presence (o : Object) (name : String) : Presence :=
  match o.get? name with
  | none => .absent
  | some .null => .null
  | some _ => .present

/-- The value of a property of an envelope. -/
def require (o : Object) (name : String) : Decoded Json :=
  match o.get? name with
  | some v => .ok v
  | none =>
    .error (.missing name
      (some ("Expected '" ++ name ++ "' property in JSON object, but none was found.")))

/-- The value of a property that is known to be there. -/
def value (o : Object) (name : String) : Decoded Json :=
  match o.get? name with
  | some v => .ok v
  | none => .error (.unchecked name)

/-- A string property. -/
def string (o : Object) (name : String) : Decoded String := do
  (← o.value name).asString name

/-- An integer property. -/
def int (o : Object) (name : String) : Decoded Int := do
  (← o.value name).asInt name

/-- A Boolean property. -/
def bool (o : Object) (name : String) : Decoded Bool := do
  (← o.value name).asBool name

/-- A string property where null and blank mean that there is none. -/
def optionalString (o : Object) (name : String) : Decoded (Option String) := do
  (← o.value name).asOptionalString name

section Lemmas

variable {o : Object} {name : String}

theorem presence_eq_absent_iff : o.presence name = .absent ↔ o.get? name = none := by
  unfold presence
  split <;> simp_all

theorem presence_eq_null_iff : o.presence name = .null ↔ o.get? name = some .null := by
  unfold presence
  split <;> simp_all

end Lemmas

end Object
end JobWire
