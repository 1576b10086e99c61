import JobWire.Property.Elements
import JobWire.Wire

/-!
# Counts of a queue's jobs

The number of jobs of one queue in each state.  On the wire:

    {"depends": 0, "name": "emails", "paused": false, "recurring": 1, "running": 2,
     "scheduled": 0, "stalled": 0, "throttled": 0, "waiting": 5}
-/

namespace JobWire

/-- The number of jobs in each state of a queue. -/
structure QueueCounts where
  queue : String
  paused : Bool
  depends : Int
  recurring : Int
  running : Int
  scheduled : Int
  stalled : Int
  throttled : Int
  waiting : Int
deriving DecidableEq

/-- The fields given for the counts of a queue. -/
structure QueueCountsDraft where
  queue : Option String := none
  paused : Option Bool := none
  depends : Option Int := none
  recurring : Option Int := none
  running : Option Int := none
  scheduled : Option Int := none
  stalled : Option Int := none
  throttled : Option Int := none
  waiting : Option Int := none

/-- The counts with the given fields. -/
def QueueCountsDraft.build (d : QueueCountsDraft) : Built QueueCounts := do
  let slot := Slot.mk "QueueCounts"
  return {
    queue := ← (slot "queue_name").text d.queue
    paused := ← (slot "paused").given d.paused
    depends := ← (slot "depends").given d.depends
    recurring := ← (slot "recurring").given d.recurring
    running := ← (slot "running").given d.running
    scheduled := ← (slot "scheduled").given d.scheduled
    stalled := ← (slot "stalled").given d.stalled
    throttled := ← (slot "throttled").given d.throttled
    waiting := ← (slot "waiting").given d.waiting }

namespace QueueCounts

/-- The values that the counts of a queue accept. -/
def Valid (c : QueueCounts) : Prop := NotBlank c.queue

/-- The declared properties of the counts of a queue. -/
def shape : Shape where
  record := "queue counts"
  names :=
    ["depends", "name", "paused", "recurring", "running", "scheduled", "stalled", "throttled",
      "waiting"]

/-- The fields of the counts of a queue, read from their properties. -/
def draft (o : Object) : Decoded QueueCountsDraft := do
  return {
    queue := ← o.string "name"
    paused := ← o.bool "paused"
    depends := ← o.int "depends"
    recurring := ← o.int "recurring"
    running := ← o.int "running"
    scheduled := ← o.int "scheduled"
    stalled := ← o.int "stalled"
    throttled := ← o.int "throttled"
    waiting := ← o.int "waiting" }

/-- The counts that a value is. -/
def ofJson (v : Json) : Decode QueueCounts := do
  let o ← shape.read v
  let d ← draft o
  d.build

/-- The value of the counts of a queue. -/
def toJson (c : QueueCounts) : Json :=
  .obj
    [("depends", .int c.depends),
      ("name", .str c.queue),
      ("paused", .bool c.paused),
      ("recurring", .int c.recurring),
      ("running", .int c.running),
      ("scheduled", .int c.scheduled),
      ("stalled", .int c.stalled),
      ("throttled", .int c.throttled),
      ("waiting", .int c.waiting)]

instance : Wire QueueCounts := ⟨ofJson, toJson⟩

/-- The counts of several queues. -/
def listOfJson (v : Json) : Decode (List QueueCounts) :=
  v.list "counts" ofJson

end QueueCounts
end JobWire
