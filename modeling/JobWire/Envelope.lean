import JobWire.Job.Wire

/-!
# Envelopes

Some answers bundle lists:

    {"jobs": ["jid-1", "jid-2"], "total": 40}
    {"jobs": [{...}], "expired": ["jid-3"]}
    {"jobs": ["jid-1"], "stalled": ["jid-2"]}

The lists are settled in a fixed order.  An object with properties in place of a list is reported as
it is everywhere; any other fault of a list, null included, is reported as a failure of the list
property, with the error of the first bad element as its cause.  Other properties are ignored
without a notice.
-/

namespace JobWire

/-- The elements of a list property of an envelope, which can only be an array or an object. -/
def envelopeElements (name typeName : String) : Json → Decoded (List Json)
  | .arr items => (Json.arr items).elements name
  | .obj members => (Json.obj members).elements name
  | _ => .error (.nested name typeName)

/-- A list property of an envelope, whose decoded type errors call by the given name. -/
def Object.envelopeList {α : Type} (o : Object) (name typeName : String)
    (item : Json → Decode α) : Decode (List α) := do
  let items ← envelopeElements name typeName (← o.require name)
  (Traced.each item items).mapError (.nestedElement name typeName)

/-- A list property of an envelope that holds jids. -/
def Object.envelopeJids (o : Object) (name : String) : Decode (List String) :=
  o.envelopeList name "string[]" (Json.stringElement name)

/-- A page of jids, and how many there are in all. -/
structure JidsResult where
  jids : List String := []
  total : Int := 0
deriving DecidableEq

namespace JidsResult

/-- The page that a value is. -/
def ofJson (v : Json) : Decode JidsResult := do
  let o ← v.asObject
  let jids ← o.envelopeJids "jobs"
  let total ← (← o.require "total").asInt "total"
  return { jids, total }

/-- The value of a page of jids. -/
def toJson (r : JidsResult) : Json :=
  .obj [("total", .int r.total), ("jobs", .ofStrings r.jids)]

instance : Wire JidsResult := ⟨ofJson, toJson⟩

end JidsResult

/-- The tracked jobs that still exist, and the jids of those that do not. -/
structure TrackedJobs where
  jobs : List Job := []
  expiredJids : List String := []
deriving DecidableEq

namespace TrackedJobs

/-- The values that tracked jobs accept. -/
def Valid (t : TrackedJobs) : Prop := ∀ j ∈ t.jobs, j.Valid

/-- The tracked jobs that a value is. -/
def ofJson (v : Json) : Decode TrackedJobs := do
  let o ← v.asObject
  let jobs ← o.envelopeList "jobs" "Job[]" Job.ofJson
  let expiredJids ← o.envelopeJids "expired"
  return { jobs, expiredJids }

/-- The value of tracked jobs. -/
def toJson (t : TrackedJobs) : Json :=
  .obj [("jobs", .arr (t.jobs.map Job.toJson)), ("expired", .ofStrings t.expiredJids)]

instance : Wire TrackedJobs := ⟨ofJson, toJson⟩

end TrackedJobs

/-- The jids of the jobs that a worker runs, and of those that have stalled. -/
structure WorkerJobs where
  jids : List String := []
  stalledJids : List String := []
deriving DecidableEq

namespace WorkerJobs

/-- The jobs of a worker that a value is. -/
def ofJson (v : Json) : Decode WorkerJobs := do
  let o ← v.asObject
  let jids ← o.envelopeJids "jobs"
  let stalledJids ← o.envelopeJids "stalled"
  return { jids, stalledJids }

/-- The value of the jobs of a worker. -/
def toJson (w : WorkerJobs) : Json :=
  .obj [("jobs", .ofStrings w.jids), ("stalled", .ofStrings w.stalledJids)]

instance : Wire WorkerJobs := ⟨ofJson, toJson⟩

end WorkerJobs
end JobWire
