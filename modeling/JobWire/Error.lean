import JobWire.Constraint

/-!
# Errors

A server's answer that cannot be decoded is a `DecodeError`; a `ClientError` is that, or an answer
that is missing, or a command that cannot be run, or a failure that comes from elsewhere.  An error
says what is wrong, and `message` puts it into words.

Every error but one that comes from elsewhere has an `ErrorKind`.  The kinds form a tree, and
handling an error by its kind includes handling the kinds above it.

**Results.**
* `client_mem_lineage`: every kind of error lies below `ErrorKind.client`.
-/

namespace JobWire

/-- Why a value from the server could not be decoded. -/
inductive DecodeError where
  /-- A failure in its own words, with the property at fault if there is one. -/
  | other (text : String) (name : Option String)
  /-- The value is not an object. -/
  | malformedRoot (text : Option String)
  /-- The document cannot be read as JSON. -/
  | invalidJson
  /-- The text is not JSON, in words of its own. -/
  | malformedJson (text : String) (name : Option String)
  /-- A declared property is absent. -/
  | missing (name : String) (text : Option String)
  /-- A property that must have a value is null. -/
  | null (name : String) (text : Option String)
  /-- A property has a value of the wrong kind. -/
  | unexpectedShape (name expected actual : String)
  /-- A list property is an object with properties. -/
  | nonEmptyObject (name : String) (propertyCount : Int)
  /-- A composite property has the wrong shape. -/
  | nested (name typeName : String)
  /-- An element of a composite property cannot be decoded. -/
  | nestedElement (name typeName : String) (cause : DecodeError)
  /-- A decoded value breaks a constraint of its record. -/
  | invalid (refusal : Invalid)
  /-- A decoded value is refused, in words of its own. -/
  | invalidText (text : String) (name : Option String)
  /-- A property was read that is absent and had not been checked: a fault of the decoder. -/
  | unchecked (name : String)
deriving DecidableEq

/-- Why a command has no decoded result. -/
inductive ClientError where
  | decode (error : DecodeError)
  /-- The server has no answer where there must be one. -/
  | noAnswer (text : Option String)
  /-- The command cannot be run. -/
  | command (command text : String)
  /-- A failure in its own words. -/
  | other (text : String)
  /-- A failure that is none of the client's own, in its own words. -/
  | foreign (text : String)
deriving DecidableEq

/-- A text that was given, unless it is empty. -/
def givenText (text : Option String) (default : String) : String :=
  match text with
  | some t => if t.isEmpty then default else t
  | none => default

namespace DecodeError

/-- The shape that list properties have. -/
def listShape : String := "array or empty object"

/-- The shape of an object with the given number of properties. -/
def objectShape (propertyCount : Int) : String :=
  "object with " ++ toString propertyCount ++ " properties"

/-- The sentence about a property of the wrong shape. -/
def shapeMessage (name expected actual : String) : String :=
  "Expected '" ++ name ++ "' to be " ++ expected ++ " but encountered " ++ actual ++ "."

/-- The text of an error.  The reason is what the reader of JSON says of the text that it does not
take. -/
def message (reason : String) : DecodeError → String
  | other text _ => text
  | malformedRoot text => text.getD "Expected reader to begin with start of object."
  | invalidJson => "Invalid JSON from server: " ++ reason
  | malformedJson text _ => text
  | missing name text => givenText text ("Required property '" ++ name ++ "' not found.")
  | null name text => givenText text ("Value cannot be null. (Parameter '" ++ name ++ "')")
  | unexpectedShape name expected actual => shapeMessage name expected actual
  | nonEmptyObject name propertyCount => shapeMessage name listShape (objectShape propertyCount)
  | nested name typeName | nestedElement name typeName _ =>
    "Failed to deserialize '" ++ name ++ "' property into a " ++ typeName ++ "."
  | invalid refusal => refusal.message reason
  | invalidText text _ => text
  | unchecked name => "Property '" ++ name ++ "' was read before it was checked."

/-- The property at fault, if one can be named. -/
def name? : DecodeError → Option String
  | other _ name | malformedJson _ name | invalidText _ name => name
  | invalid refusal => some refusal.location
  | malformedRoot _ | invalidJson => none
  | missing name _ | null name _ | unexpectedShape name _ _ | nonEmptyObject name _
  | nested name _ | nestedElement name _ _ | unchecked name => some name

end DecodeError

/-- The text of an error. -/
def ClientError.message (reason : String) : ClientError → String
  | decode error => error.message reason
  | noAnswer text => text.getD "Server returned unexpected null result."
  | command name text => name ++ ": " ++ text
  | other text | foreign text => text

/-- The kinds of error. -/
inductive ErrorKind where
  | client
  | decode
  | malformedRoot
  | malformedJson
  | missing
  | null
  | unexpectedShape
  | nonEmptyObject
  | nested
  | invalidValue
  | noAnswer
  | command
deriving DecidableEq

namespace ErrorKind

/-- The kinds above a kind, the nearest first. -/
def above : ErrorKind → List ErrorKind
  | client => []
  | decode | noAnswer | command => [client]
  | malformedRoot | malformedJson | missing | null | unexpectedShape | nested | invalidValue =>
    [decode, client]
  | nonEmptyObject => [unexpectedShape, decode, client]

/-- A kind and the kinds above it, the nearest first. -/
def lineage (k : ErrorKind) : List ErrorKind :=
  k :: k.above

/-- Whether errors of a kind are about a value that was received. -/
def isValueError (k : ErrorKind) : Bool :=
  k.lineage.contains decode

theorem client_mem_lineage (k : ErrorKind) : client ∈ k.lineage := by
  cases k <;> decide

end ErrorKind

/-- The kind of an error. -/
def DecodeError.kind : DecodeError → ErrorKind
  | other _ _ | unchecked _ => .decode
  | malformedRoot _ => .malformedRoot
  | invalidJson | malformedJson _ _ => .malformedJson
  | missing _ _ => .missing
  | null _ _ => .null
  | unexpectedShape _ _ _ => .unexpectedShape
  | nonEmptyObject _ _ => .nonEmptyObject
  | nested _ _ | nestedElement _ _ _ => .nested
  | invalid _ | invalidText _ _ => .invalidValue

/-- The kind of an error, unless it comes from elsewhere. -/
def ClientError.kind? : ClientError → Option ErrorKind
  | decode error => some error.kind
  | noAnswer _ => some .noAnswer
  | command _ _ => some .command
  | other _ => some .client
  | foreign _ => none

end JobWire
