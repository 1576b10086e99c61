import JobWire.Event.Wire
import JobWire.Job.Basic

/-!
# Jobs on the wire

A job is an object with eighteen properties, every one of which must be there:

    {"data": "...", "dependencies": [], "dependents": {}, "expires": 1700000060000,
     "failure": {}, "history": [{"what": "put", "when": 1700000000000, "queue": "emails"}],
     "jid": "4f6e", "klass": "SendEmail", "priority": 0, "queue": "emails", "remaining": 5,
     "retries": 5, "spawned_from_jid": false, "state": "waiting", "tags": [],
     "throttles": ["ql:q:emails"], "tracked": false, "worker": ""}

An expiry of zero or less, a blank queue, a blank or null worker, and a parent that is null or
false stand for the absence of a value.  The properties are read in the order of a job's fields,
which is not the order in which their presence is checked.
-/

namespace JobWire

namespace Json

/-- The value of an optional text, with the empty text for its absence. -/
def ofOptionalText (s : Option String) : Json :=
  .str (s.getD "")

/-- The value of a list of strings. -/
def ofStrings (texts : List String) : Json :=
  .arr (texts.map .str)

end Json

namespace Job

/-- The declared properties of a job. -/
def shape : Shape where
  record := "job"
  names :=
    ["data", "dependencies", "dependents", "expires", "failure", "history", "jid", "klass",
      "priority", "queue", "remaining", "retries", "spawned_from_jid", "state", "tags",
      "throttles", "tracked", "worker"]
  nullable := ["failure", "spawned_from_jid", "worker"]

/-- The expiry of a lock, if there is a lock. -/
def lockExpiry (expires : Int) : Option Int :=
  if 0 < expires then some expires else none

/-- The jid of the recurring job that spawned a job, if one did. -/
def parent : Json → Decoded (Option String)
  | .null | .bool false => .ok none
  | .str s => .ok (some s)
  | v => .error (v.wrongShape "spawned_from_jid" "string or false")

/-- The fields of a job, read from its properties. -/
def draft (o : Object) : Decode JobDraft := do
  return {
    jid := ← o.string "jid"
    className := ← o.string "klass"
    data := ← o.string "data"
    queue := some (Text.unlessBlank (← o.string "queue"))
    worker := some (← o.optionalString "worker")
    state := ← o.string "state"
    priority := ← o.int "priority"
    remaining := ← o.int "remaining"
    retries := ← o.int "retries"
    expires := lockExpiry (← o.int "expires")
    tracked := ← o.bool "tracked"
    spawnedFrom := ← parent (← o.value "spawned_from_jid")
    dependencies := ← o.strings "dependencies"
    dependents := ← o.strings "dependents"
    tags := ← o.strings "tags"
    throttles := ← o.strings "throttles"
    history := ← o.list "history" Event.ofJson
    failure := ← Failure.ofJson (← o.value "failure") }

/-- The job that a value is. -/
def ofJson (v : Json) : Decode Job := do
  let o ← shape.read v
  let d ← draft o
  d.build

/-- The value of a job, its properties in declared order. -/
def toJson (j : Job) : Json :=
  .obj
    [("data", .str j.data),
      ("dependencies", .ofStrings j.dependencies),
      ("dependents", .ofStrings j.dependents),
      ("expires", .int (j.expires.getD 0)),
      ("failure", Failure.toJson j.failure),
      ("history", .arr (j.history.map Event.toJson)),
      ("jid", .str j.jid),
      ("klass", .str j.className),
      ("priority", .int j.priority),
      ("queue", .ofOptionalText j.queue),
      ("remaining", .int j.remaining),
      ("retries", .int j.retries),
      ("spawned_from_jid", j.spawnedFrom.elim .null .str),
      ("state", .str j.state),
      ("tags", .ofStrings j.tags),
      ("throttles", .ofStrings j.throttles),
      ("tracked", .bool j.tracked),
      ("worker", .ofOptionalText j.worker)]

instance : Wire Job := ⟨ofJson, toJson⟩

/-- The jobs of a list, which errors call by the given name. -/
def listOfJson (name : String) (v : Json) : Decode (List Job) :=
  v.list name ofJson

instance : Wire (List Job) := ⟨listOfJson "jobs", fun jobs => .arr (jobs.map toJson)⟩

end Job
end JobWire
