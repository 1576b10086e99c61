import JobWire.Property.Elements
import JobWire.Wire

/-!
# Statistics of a queue

The statistics of a day: how many jobs failed, how often, and how long jobs waited and ran.  The
times of each phase are summed up in a record of their own, with a histogram of job counts as the
server reports it.
-/

namespace JobWire

/-- The times that the jobs of a queue spent in one phase. -/
structure PhaseStats where
  count : Int
  mean : Int
  standardDeviation : Int
  histogram : List Int
deriving DecidableEq

/-- The fields given for the times of a phase. -/
structure PhaseStatsDraft where
  count : Option Int := none
  mean : Option Int := none
  standardDeviation : Option Int := none
  histogram : List Int := []

/-- The times of a phase with the given fields. -/
def PhaseStatsDraft.build (d : PhaseStatsDraft) : Built PhaseStats := do
  let slot := Slot.mk "QueueStateStats"
  return {
    count := ← (slot "count").given d.count
    mean := ← (slot "mean").given d.mean
    standardDeviation := ← (slot "standard_deviation").given d.standardDeviation
    histogram := d.histogram }

namespace PhaseStats

/-- The declared properties of the times of a phase. -/
def shape : Shape := ⟨"queue state stats", ["count", "histogram", "mean", "std"], []⟩

/-- The fields of the times of a phase, read from their properties. -/
def draft (o : Object) : Decode PhaseStatsDraft := do
  return {
    count := ← o.int "count"
    mean := ← o.int "mean"
    standardDeviation := ← o.int "std"
    histogram := ← o.ints "histogram" }

/-- The times of a phase that a value is. -/
def ofJson (v : Json) : Decode PhaseStats := do
  let o ← shape.read v
  let d ← draft o
  d.build

/-- The value of the times of a phase. -/
def toJson (s : PhaseStats) : Json :=
  .obj
    [("count", .int s.count),
      ("histogram", .arr (s.histogram.map .int)),
      ("mean", .int s.mean),
      ("std", .int s.standardDeviation)]

instance : Wire PhaseStats := ⟨ofJson, toJson⟩

end PhaseStats

/-- The statistics of a queue for a day. -/
structure QueueStats where
  failed : Int
  failures : Int
  retries : Int
  run : PhaseStats
  wait : PhaseStats
deriving DecidableEq

/-- The fields given for the statistics of a queue. -/
structure QueueStatsDraft where
  failed : Option Int := none
  failures : Option Int := none
  retries : Option Int := none
  run : Option PhaseStats := none
  wait : Option PhaseStats := none

/-- The statistics with the given fields. -/
def QueueStatsDraft.build (d : QueueStatsDraft) : Built QueueStats := do
  let slot := Slot.mk "QueueStats"
  return {
    failed := ← (slot "failed").given d.failed
    failures := ← (slot "failures").given d.failures
    retries := ← (slot "retries").given d.retries
    run := ← (slot "run").given d.run
    wait := ← (slot "wait").given d.wait }

namespace QueueStats

/-- The declared properties of the statistics of a queue. -/
def shape : Shape := ⟨"queue stats", ["failed", "failures", "retries", "run", "wait"], []⟩

/-- The fields of the statistics of a queue, read from their properties. -/
def draft (o : Object) : Decode QueueStatsDraft := do
  return {
    failed := ← o.int "failed"
    failures := ← o.int "failures"
    retries := ← o.int "retries"
    run := ← PhaseStats.ofJson (← o.value "run")
    wait := ← PhaseStats.ofJson (← o.value "wait") }

/-- The statistics that a value is. -/
def ofJson (v : Json) : Decode QueueStats := do
  let o ← shape.read v
  let d ← draft o
  d.build

/-- The value of the statistics of a queue. -/
def toJson (s : QueueStats) : Json :=
  .obj
    [("failed", .int s.failed),
      ("failures", .int s.failures),
      ("retries", .int s.retries),
      ("run", s.run.toJson),
      ("wait", s.wait.toJson)]

instance : Wire QueueStats := ⟨ofJson, toJson⟩

end QueueStats
end JobWire
