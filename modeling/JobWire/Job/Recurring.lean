import JobWire.Job.Wire

/-!
# Recurring jobs

A recurring job is a template from which the server spawns a job in every interval.  On the wire it
has twelve properties, none of which may be null; a blank queue stands for none.
-/

namespace JobWire

/-- A recurring job. -/
structure RecurringJob where
  jid : String
  className : String
  data : String
  queue : Option String
  state : String
  priority : Int
  retries : Int
  count : Int
  intervalSeconds : Int
  maximumBacklog : Int
  tags : List String
  throttles : List String
deriving DecidableEq

/-- The fields given for a recurring job. -/
structure RecurringJobDraft where
  jid : Option String := none
  className : Option String := none
  data : Option String := none
  queue : Option (Option String) := none
  state : Option String := none
  priority : Option Int := none
  retries : Option Int := none
  count : Option Int := none
  intervalSeconds : Option Int := none
  maximumBacklog : Option Int := none
  tags : List String := []
  throttles : List String := []

/-- The recurring job with the given fields. -/
def RecurringJobDraft.build (d : RecurringJobDraft) : Built RecurringJob := do
  let slot := Slot.mk "RecurringJob"
  return {
    jid := ← (slot "jid").text d.jid
    className := ← (slot "class_name").text d.className
    data := ← (slot "data").text d.data
    queue := ← (slot "queue_name").optionalText (← (slot "queue_name").given d.queue)
    state := ← (slot "state").text d.state
    priority := ← (slot "priority").nonNegative d.priority
    retries := ← (slot "retries").nonNegative d.retries
    count := ← (slot "count").nonNegative d.count
    intervalSeconds := ← (slot "interval_seconds").positive d.intervalSeconds
    maximumBacklog := ← (slot "maximum_backlog").nonNegative d.maximumBacklog
    tags := ← (slot "tags").texts d.tags
    throttles := ← (slot "throttles").texts d.throttles }

namespace RecurringJob

/-- The values that a recurring job accepts. -/
structure Valid (j : RecurringJob) : Prop where
  jid : NotBlank j.jid
  className : NotBlank j.className
  data : NotBlank j.data
  queue : NoneOrNotBlank j.queue
  state : NotBlank j.state
  priority : 0 ≤ j.priority
  retries : 0 ≤ j.retries
  count : 0 ≤ j.count
  intervalSeconds : 0 < j.intervalSeconds
  maximumBacklog : 0 ≤ j.maximumBacklog
  tags : NoBlankItem j.tags
  throttles : NoBlankItem j.throttles

/-- The declared properties of a recurring job. -/
def shape : Shape where
  record := "recurring job"
  names :=
    ["backlog", "count", "data", "interval", "jid", "klass", "priority", "queue", "retries",
      "state", "tags", "throttles"]

/-- The fields of a recurring job, read from its properties. -/
def draft (o : Object) : Decode RecurringJobDraft := do
  return {
    jid := ← o.string "jid"
    className := ← o.string "klass"
    data := ← o.string "data"
    queue := some (Text.unlessBlank (← o.string "queue"))
    state := ← o.string "state"
    priority := ← o.int "priority"
    retries := ← o.int "retries"
    count := ← o.int "count"
    intervalSeconds := ← o.int "interval"
    maximumBacklog := ← o.int "backlog"
    tags := ← o.strings "tags"
    throttles := ← o.strings "throttles" }

/-- The recurring job that a value is. -/
def ofJson (v : Json) : Decode RecurringJob := do
  let o ← shape.read v
  let d ← draft o
  d.build

/-- The value of a recurring job, its properties in declared order. -/
def toJson (j : RecurringJob) : Json :=
  .obj
    [("backlog", .int j.maximumBacklog),
      ("count", .int j.count),
      ("data", .str j.data),
      ("interval", .int j.intervalSeconds),
      ("jid", .str j.jid),
      ("klass", .str j.className),
      ("priority", .int j.priority),
      ("queue", .ofOptionalText j.queue),
      ("retries", .int j.retries),
      ("state", .str j.state),
      ("tags", .ofStrings j.tags),
      ("throttles", .ofStrings j.throttles)]

instance : Wire RecurringJob := ⟨ofJson, toJson⟩

end RecurringJob
end JobWire
