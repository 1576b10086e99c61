import JobWire.Property.Elements
import JobWire.Wire

/-!
# Counts of a worker's jobs

The number of jobs that a worker runs and of those that have stalled.
-/

namespace JobWire

/-- The number of jobs that a worker holds. -/
structure WorkerCounts where
  worker : String
  jobs : Int
  stalled : Int
deriving DecidableEq

/-- The fields given for the counts of a worker. -/
structure WorkerCountsDraft where
  worker : Option String := none
  jobs : Option Int := none
  stalled : Option Int := none

/-- The counts with the given fields. -/
def WorkerCountsDraft.build (d : WorkerCountsDraft) : Built WorkerCounts := do
  let slot := Slot.mk "WorkerCounts"
  return {
    worker := ← (slot "worker_name").text d.worker
    jobs := ← (slot "jobs").given d.jobs
    stalled := ← (slot "stalled").given d.stalled }

namespace WorkerCounts

/-- The values that the counts of a worker accept. -/
def Valid (c : WorkerCounts) : Prop := NotBlank c.worker

/-- The declared properties of the counts of a worker. -/
def shape : Shape := ⟨"worker counts", ["jobs", "name", "stalled"], []⟩

/-- The fields of the counts of a worker, read from their properties. -/
def draft (o : Object) : Decoded WorkerCountsDraft := do
  return {
    worker := ← o.string "name"
    jobs := ← o.int "jobs"
    stalled := ← o.int "stalled" }

/-- The counts that a value is. -/
def ofJson (v : Json) : Decode WorkerCounts := do
  let o ← shape.read v
  let d ← draft o
  d.build

/-- The value of the counts of a worker. -/
def toJson (c : WorkerCounts) : Json :=
  .obj [("jobs", .int c.jobs), ("name", .str c.worker), ("stalled", .int c.stalled)]

instance : Wire WorkerCounts := ⟨ofJson, toJson⟩

/-- The counts of several workers. -/
def listOfJson (v : Json) : Decode (List WorkerCounts) :=
  v.list "counts" ofJson

end WorkerCounts
end JobWire
