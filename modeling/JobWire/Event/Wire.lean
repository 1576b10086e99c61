import JobWire.Event.Basic
import JobWire.Property.Elements
import JobWire.Wire

/-!
# Events on the wire

An event is a flat object, and its root property `what` alone says of which kind it is:

    {"what": "put", "when": 1700000000, "queue": "emails"}
    {"what": "failed", "when": 1700000005, "group": "timeout", "worker": "w1"}

A known kind must have its declared properties, and others are noted and dropped.  Of a log event
every other property is kept, in order; it declares nothing, so nothing is noted.
-/

namespace JobWire

namespace Object

/-- The property that says of which kind an event is. -/
def what (o : Object) : Decoded String := do
  match ← o.require "what" with
  | .null =>
    .error (.null "what" (some "Expected a string value for the 'what' property, got null."))
  | v => v.asString "what"

end Object

namespace EventKind

/-- The declared properties of a kind. -/
def shape : EventKind → Shape
  | put => ⟨"put event", ["what", "when", "queue"], []⟩
  | popped => ⟨"popped event", ["what", "when", "worker"], []⟩
  | done => ⟨"done event", ["what", "when"], []⟩
  | failed => ⟨"failed event", ["what", "when", "group", "worker"], []⟩
  | failedRetries => ⟨"failed-retries event", ["what", "when", "group"], []⟩
  | throttled => ⟨"throttled event", ["what", "when", "queue"], []⟩
  | timedOut => ⟨"timed-out event", ["what", "when"], []⟩

/-- The fields of an event of a known kind, read from its properties. -/
def draft (kind : EventKind) (o : Object) : Decoded EventDraft := do
  let time ← o.int "when"
  match kind with
  | put | throttled => return { time, queue := ← o.string "queue" }
  | popped => return { time, worker := ← o.string "worker" }
  | done | timedOut => return { time }
  | failed => return { time, group := ← o.string "group", worker := ← o.string "worker" }
  | failedRetries => return { time, group := ← o.string "group" }

/-- The event of a known kind that an object is. -/
def decode (kind : EventKind) (o : Object) : Decode Event := do
  let o ← kind.shape.read (.obj o)
  let d ← kind.draft o
  d.build kind

end EventKind

namespace Event

/-- The properties of an object that a log event keeps. -/
def keptMembers (o : Object) : Object :=
  o.filter fun m => !reservedNames.contains m.1

/-- The log event that an object is. -/
def decodeLog (what : String) (o : Object) : Decode Event := do
  let stamp ← o.require "when"
  if stamp = .null then Traced.fail (.null "when" none)
  let time ← o.int "when"
  LogDraft.build { what, time, data := Json.obj (keptMembers o) }

/-- The event that a value is. -/
def ofJson (v : Json) : Decode Event := do
  let o ← v.asObject
  let what ← o.what
  match EventKind.ofName? what with
  | some kind => kind.decode o
  | none => decodeLog what o

/-- The properties of an event after its kind and its time. -/
def ownMembers : Event → Object
  | put _ queue | throttled _ queue => [("queue", .str queue)]
  | popped _ worker => [("worker", .str worker)]
  | done _ | timedOut _ => []
  | failed _ group worker => [("group", .str group), ("worker", .str worker)]
  | failedRetries _ group => [("group", .str group)]
  | log _ _ extras => extraMembers extras

end Event

/-- The kind and the time, as properties. -/
def EventHeader.members (h : EventHeader) : Object :=
  [("what", .str h.what), ("when", .int h.time)]

namespace Event

/-- The value of an event. -/
def toJson (e : Event) : Json :=
  .obj (e.header.members ++ e.ownMembers)

instance : Wire Event := ⟨ofJson, toJson⟩

end Event
end JobWire
