import JobWire.Event.Basic
import JobWire.Job.Failure

/-!
# Jobs

A job as the server reports it.  Where the wire has a placeholder, a job has no value: no queue once
it has left every queue, no worker unless one holds it, no expiry unless it is locked, no parent
unless a recurring job spawned it.  A placeholder itself is not a value that a job accepts, so a job
written to the wire and read back is the same job.

The number of remaining attempts is bounded by the number of retries; this rule is looked at only
when every field is good.
-/

namespace JobWire

/-- A job. -/
structure Job where
  jid : String
  className : String
  data : String
  queue : Option String
  worker : Option String
  state : String
  priority : Int
  remaining : Int
  retries : Int
  expires : Option Int
  tracked : Bool
  spawnedFrom : Option String
  dependencies : List String
  dependents : List String
  tags : List String
  throttles : List String
  history : List Event
  failure : Option Failure
deriving DecidableEq

/-- The fields given for a job.  Of an optional field the outer option says whether it was given. -/
structure JobDraft where
  jid : Option String := none
  className : Option String := none
  data : Option String := none
  queue : Option (Option String) := none
  worker : Option (Option String) := none
  state : Option String := none
  priority : Option Int := none
  remaining : Option Int := none
  retries : Option Int := none
  expires : Option Int := none
  tracked : Bool := false
  spawnedFrom : Option String := none
  dependencies : List String := []
  dependents : List String := []
  tags : List String := []
  throttles : List String := []
  history : List Event := []
  failure : Option Failure := none

namespace Job

/-- The rule on the remaining attempts. -/
def remainingViolation? (j : Job) : Option Violation :=
  if j.remaining < -1 then some .remainingTooLow
  else if j.retries < j.remaining then some (.remainingAboveRetries j.retries)
  else none

/-- The values that a job accepts. -/
structure Valid (j : Job) : Prop where
  jid : NotBlank j.jid
  className : NotBlank j.className
  data : NotBlank j.data
  queue : NoneOrNotBlank j.queue
  worker : NoneOrNotBlank j.worker
  state : NotBlank j.state
  priority : 0 ≤ j.priority
  retries : 0 ≤ j.retries
  expires : ∀ e ∈ j.expires, 0 < e
  spawnedFrom : NoneOrNotBlank j.spawnedFrom
  dependencies : NoBlankItem j.dependencies
  dependents : NoBlankItem j.dependents
  tags : NoBlankItem j.tags
  throttles : NoBlankItem j.throttles
  history : ∀ e ∈ j.history, e.Valid
  failure : ∀ f ∈ j.failure, f.Valid
  remaining : -1 ≤ j.remaining ∧ j.remaining ≤ j.retries

end Job

/-- The job with the given fields. -/
def JobDraft.build (d : JobDraft) : Built Job := do
  let slot := Slot.mk "Job"
  let j : Job := {
    jid := ← (slot "jid").text d.jid
    className := ← (slot "class_name").text d.className
    data := ← (slot "data").text d.data
    queue := ← (slot "queue_name").optionalText (← (slot "queue_name").given d.queue)
    worker := ← (slot "worker_name").optionalText (← (slot "worker_name").given d.worker)
    state := ← (slot "state").text d.state
    priority := ← (slot "priority").nonNegative d.priority
    remaining := ← (slot "remaining").given d.remaining
    retries := ← (slot "retries").nonNegative d.retries
    expires := ← (slot "expires").optionalPositive d.expires
    tracked := d.tracked
    spawnedFrom := ← (slot "spawned_from_jid").optionalText d.spawnedFrom
    dependencies := ← (slot "dependencies").texts d.dependencies
    dependents := ← (slot "dependents").texts d.dependents
    tags := ← (slot "tags").texts d.tags
    throttles := ← (slot "throttles").texts d.throttles
    history := d.history
    failure := d.failure }
  match j.remainingViolation? with
  | none => return j
  | some v => (slot "Job").refuse v

end JobWire
