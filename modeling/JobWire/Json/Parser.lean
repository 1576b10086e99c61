import JobWire.Json.Token

/-!
# Reading JSON text

A value is assembled from its tokens by a machine that keeps the containers around the current one
on a stack.  A container goes onto the stack when its first element begins, and the stack holds at
most `maxDepth` containers: so a container with elements may lie `maxDepth` deep, and an empty one
a level deeper.

When a name is repeated within an object, the last value wins and the name keeps its first place.

**Results.**
* `Assembly.run_append`: tokens are assembled part by part.
-/

namespace JobWire
namespace Json

/-- The greatest depth of a container that has elements. -/
def maxDepth : Nat := 200

/-- A container that waits for its next element. -/
inductive Frame where
  /-- An array with the items before the one awaited, the latest first. -/
  | item (items : List Json)
  /-- An object with the members before the one awaited, and the name of the one awaited. -/
  | member (members : Object) (name : String)
deriving DecidableEq

/-- What may come next. -/
inductive Expected where
  | value
  | firstItem
  | firstName
  | afterItem (items : List Json)
  | name (members : Object)
  | colon (members : Object) (name : String)
  | afterMember (members : Object)
  | nothing (v : Json)
deriving DecidableEq

/-- A value under assembly: the waiting containers, innermost first, and what may come next. -/
structure Assembly where
  frames : List Frame
  expected : Expected
deriving DecidableEq

namespace Assembly

/-- Nothing has been assembled. -/
def start : Assembly := ⟨[], .value⟩

/-- A complete value goes to the container that waits for it. -/
def give (v : Json) : List Frame → Assembly
  | [] => ⟨[], .nothing v⟩
  | .item items :: frames => ⟨frames, .afterItem (v :: items)⟩
  | .member members name :: frames => ⟨frames, .afterMember (Object.set name v members)⟩

/-- A token that begins a value. -/
def beginValue (frames : List Frame) : Token → Option Assembly
  | .scalar v => some (give v frames)
  | .text s => some (give (.str s) frames)
  | .openArray => some ⟨frames, .firstItem⟩
  | .openObject => some ⟨frames, .firstName⟩
  | _ => none

/-- One more container waits, if the stack has room. -/
def push (frame : Frame) (frames : List Frame) : Option (List Frame) :=
  if frames.length < maxDepth then some (frame :: frames) else none

/-- The assembly after one more token; none if no value goes on like this. -/
def step (a : Assembly) (t : Token) : Option Assembly :=
  match a.expected, t with
  | .value, t => beginValue a.frames t
  | .firstItem, .closeArray => some (give (.arr []) a.frames)
  | .firstItem, t => (push (.item []) a.frames).bind fun frames => beginValue frames t
  | .firstName, .closeObject => some (give (.obj []) a.frames)
  | .firstName, .text name => some ⟨a.frames, .colon [] name⟩
  | .afterItem items, .closeArray => some (give (.arr items.reverse) a.frames)
  | .afterItem items, .comma => (push (.item items) a.frames).map fun frames => ⟨frames, .value⟩
  | .name members, .text name => some ⟨a.frames, .colon members name⟩
  | .colon members name, .colon =>
    (push (.member members name) a.frames).map fun frames => ⟨frames, .value⟩
  | .afterMember members, .closeObject => some (give (.obj members) a.frames)
  | .afterMember members, .comma => some ⟨a.frames, .name members⟩
  | _, _ => none

/-- The assembly after a run of tokens. -/
def run (a : Assembly) (ts : List Token) : Option Assembly :=
  ts.foldlM step a

theorem run_append (a : Assembly) (ts us : List Token) :
    a.run (ts ++ us) = (a.run ts).bind fun b => b.run us :=
  List.foldlM_append

@[simp] theorem run_nil (a : Assembly) : a.run [] = some a := rfl

theorem run_cons (a : Assembly) (t : Token) (ts : List Token) :
    a.run (t :: ts) = (a.step t).bind fun b => b.run ts := rfl

/-- The value at the end of the tokens. -/
def finish (a : Assembly) : Option Json :=
  match a.expected with
  | .nothing v => some v
  | _ => none

end Assembly

/-- The value that a token sequence denotes. -/
def ofTokens? (ts : List Token) : Option Json :=
  (Assembly.start.run ts).bind Assembly.finish

/-- The value that a text denotes; none if it is not JSON text. -/
def parseChars (cs : List Char) : Option Json :=
  (tokens cs).bind ofTokens?

/-- The value that a text denotes; none if it is not JSON text. -/
def parse (s : String) : Option Json :=
  parseChars s.toList

/-- The value that a byte sequence denotes; none if it is not JSON text in UTF-8. -/
def parseBytes (bytes : ByteArray) : Option Json :=
  (String.fromUTF8? bytes).bind parse

end Json
end JobWire
