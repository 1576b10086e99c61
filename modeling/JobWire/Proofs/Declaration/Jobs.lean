import JobWire.Proofs.Construction
import JobWire.Proofs.Declaration.Rules
import Mathlib.Tactic.MkIffOfInductiveProp

/-!
# Declarations of jobs

A job, a recurring job and a failure are built of fields, most of which must be given.  The lists of
a job and what it may lack have defaults: an empty list, or nothing.  The rule that bounds the
remaining attempts of a job by its retries is reported at the job and not at a field, and comes
after the rules on all fields.

**Results.**
* `FailureDraft.declares`, `JobArguments.declares`, `RecurringJobArguments.declares`: failures, jobs
  and recurring jobs are built as they are declared.
-/

namespace JobWire

theorem Failure.fields_injective : Function.Injective fields := by
  rintro ⟨⟩ ⟨⟩ h
  cases h
  rfl

namespace FailureDraft

/-- How a failure is built. -/
def declaration : Declaration FailureDraft Failure where
  record := "JobFailure"
  rules :=
    [.given FailureDraft.group (.text "group" id),
      .given FailureDraft.message (.text "message" id),
      .given FailureDraft.time (.positive "when" id),
      .given FailureDraft.worker (.text "worker_name" id)]
  Gives d f := d = f.fields

theorem errorOf?_build (d : FailureDraft) :
    errorOf? d.build = Declaration.firstRefusal? declaration.record declaration.rules d := by
  refine Declaration.errorOf?_bind Slot.errorOf?_text fun _ _ => ?_
  refine Declaration.errorOf?_bind Slot.errorOf?_text fun _ _ => ?_
  refine Declaration.errorOf?_bind Slot.errorOf?_positive fun _ _ => ?_
  exact Declaration.errorOf?_bind Slot.errorOf?_text fun _ _ => rfl

theorem declares : declaration.Declares build :=
  .of_fields errorOf?_build (fun h => (build_eq_ok_iff.mp h).1) Iff.rfl Failure.fields_injective

end FailureDraft

theorem Job.fields_injective : Function.Injective fields := by
  rintro ⟨⟩ ⟨⟩ h
  cases h
  rfl

/-- The arguments of a job.  Of a field that may be nothing the outer option says whether it was
given. -/
structure JobArguments where
  jid : Option String := none
  className : Option String := none
  data : Option String := none
  queue : Option (Option String) := none
  worker : Option (Option String) := none
  state : Option String := none
  priority : Option Int := none
  remaining : Option Int := none
  retries : Option Int := none
  expires : Option (Option Int) := none
  tracked : Option Bool := none
  spawnedFrom : Option (Option String) := none
  dependencies : Option (List String) := none
  dependents : Option (List String) := none
  tags : Option (List String) := none
  throttles : Option (List String) := none
  history : Option (List Event) := none
  failure : Option (Option Failure) := none

namespace JobArguments

/-- The fields that the arguments fill; a field that was omitted keeps its default. -/
def draft (a : JobArguments) : JobDraft :=
  let default : JobDraft := {}
  { jid := a.jid
    className := a.className
    data := a.data
    queue := a.queue
    worker := a.worker
    state := a.state
    priority := a.priority
    remaining := a.remaining
    retries := a.retries
    expires := a.expires.getD default.expires
    tracked := a.tracked.getD default.tracked
    spawnedFrom := a.spawnedFrom.getD default.spawnedFrom
    dependencies := a.dependencies.getD default.dependencies
    dependents := a.dependents.getD default.dependents
    tags := a.tags.getD default.tags
    throttles := a.throttles.getD default.throttles
    history := a.history.getD default.history
    failure := a.failure.getD default.failure }

/-- The job has the values of the arguments, and lacks what has a default and was omitted. -/
@[mk_iff]
structure Gives (a : JobArguments) (j : Job) : Prop where
  jid : a.jid = some j.jid
  className : a.className = some j.className
  data : a.data = some j.data
  queue : a.queue = some j.queue
  worker : a.worker = some j.worker
  state : a.state = some j.state
  priority : a.priority = some j.priority
  remaining : a.remaining = some j.remaining
  retries : a.retries = some j.retries
  expires : a.expires.getD none = j.expires
  tracked : a.tracked.getD false = j.tracked
  spawnedFrom : a.spawnedFrom.getD none = j.spawnedFrom
  dependencies : a.dependencies.getD [] = j.dependencies
  dependents : a.dependents.getD [] = j.dependents
  tags : a.tags.getD [] = j.tags
  throttles : a.throttles.getD [] = j.throttles
  history : a.history.getD [] = j.history
  failure : a.failure.getD none = j.failure

theorem gives_iff_draft {a : JobArguments} {j : Job} : a.Gives j ↔ a.draft = j.fields := by
  simp only [gives_iff, draft, Job.fields, JobDraft.mk.injEq]

/-- The rule that the remaining attempts lie between minus one and the retries. -/
def remainingRule : Rule JobArguments where
  location := "Job"
  violation? a := do
    let remaining ← a.remaining
    let retries ← a.retries
    if remaining < -1 then some .remainingTooLow
    else if retries < remaining then some (.remainingAboveRetries retries)
    else none

theorem violation?_remainingRule {a : JobArguments} {remaining retries : Int}
    (hremaining : a.remaining = some remaining) (hretries : a.retries = some retries) :
    remainingRule.violation? a =
      if remaining < -1 then some .remainingTooLow
      else if retries < remaining then some (.remainingAboveRetries retries)
      else none := by
  simp only [remainingRule, hremaining, hretries]
  rfl

/-- How a job is built. -/
def declaration : Declaration JobArguments Job where
  record := "Job"
  rules :=
    [.given jid (.text "jid" id),
      .given className (.text "class_name" id),
      .given data (.text "data" id),
      .given queue (.optionalText "queue_name" id),
      .given worker (.optionalText "worker_name" id),
      .given state (.text "state" id),
      .given priority (.nonNegative "priority" id),
      .given remaining (.any "remaining"),
      .given retries (.nonNegative "retries" id),
      .defaulted expires (.optionalPositive "expires" id),
      .defaulted spawnedFrom (.optionalText "spawned_from_jid" id),
      .defaulted dependencies (.texts "dependencies" id),
      .defaulted dependents (.texts "dependents" id),
      .defaulted tags (.texts "tags" id),
      .defaulted throttles (.texts "throttles" id),
      remainingRule]
  Gives := Gives

theorem errorOf?_build (a : JobArguments) :
    errorOf? a.draft.build = Declaration.firstRefusal? declaration.record declaration.rules a := by
  refine Declaration.errorOf?_bind Slot.errorOf?_text fun _ _ => ?_
  refine Declaration.errorOf?_bind Slot.errorOf?_text fun _ _ => ?_
  refine Declaration.errorOf?_bind Slot.errorOf?_text fun _ _ => ?_
  refine Declaration.errorOf?_bind_bind
    (Slot.errorOf?_given_bind fun _ => Slot.errorOf?_optionalText) fun _ => ?_
  refine Declaration.errorOf?_bind_bind
    (Slot.errorOf?_given_bind fun _ => Slot.errorOf?_optionalText) fun _ => ?_
  refine Declaration.errorOf?_bind Slot.errorOf?_text fun _ _ => ?_
  refine Declaration.errorOf?_bind Slot.errorOf?_nonNegative fun _ _ => ?_
  refine Declaration.errorOf?_bind Slot.errorOf?_given fun remaining hremaining => ?_
  refine Declaration.errorOf?_bind Slot.errorOf?_nonNegative fun retries hretries => ?_
  refine Declaration.errorOf?_bind (Slot.errorOf?_optionalPositive_getD a.expires) fun _ _ => ?_
  refine Declaration.errorOf?_bind (Slot.errorOf?_optionalText_getD a.spawnedFrom) fun _ _ => ?_
  refine Declaration.errorOf?_bind (Slot.errorOf?_texts_getD a.dependencies) fun _ _ => ?_
  refine Declaration.errorOf?_bind (Slot.errorOf?_texts_getD a.dependents) fun _ _ => ?_
  refine Declaration.errorOf?_bind (Slot.errorOf?_texts_getD a.tags) fun _ _ => ?_
  refine Declaration.errorOf?_bind (Slot.errorOf?_texts_getD a.throttles) fun _ _ => ?_
  -- The last rule is about two fields at once, of which the checks above have told the values.
  have hrule := violation?_remainingRule (Slot.given_eq_ok_iff.mp hremaining)
    (Slot.nonNegative_eq_ok_iff.mp hretries).1
  rw [Declaration.firstRefusal?_singleton, Rule.refusal?, hrule]
  exact Slot.errorOf?_match

theorem declares : declaration.Declares fun a => a.draft.build :=
  .of_fields errorOf?_build (fun h => (JobDraft.build_eq_ok_iff.mp h).1) gives_iff_draft
    Job.fields_injective

end JobArguments

theorem RecurringJob.fields_injective : Function.Injective fields := by
  rintro ⟨⟩ ⟨⟩ h
  cases h
  rfl

/-- The arguments of a recurring job. -/
structure RecurringJobArguments where
  jid : Option String := none
  className : Option String := none
  data : Option String := none
  queue : Option (Option String) := none
  state : Option String := none
  priority : Option Int := none
  retries : Option Int := none
  count : Option Int := none
  intervalSeconds : Option Int := none
  maximumBacklog : Option Int := none
  tags : Option (List String) := none
  throttles : Option (List String) := none

namespace RecurringJobArguments

/-- The fields that the arguments fill; a field that was omitted keeps its default. -/
def draft (a : RecurringJobArguments) : RecurringJobDraft :=
  let default : RecurringJobDraft := {}
  { jid := a.jid
    className := a.className
    data := a.data
    queue := a.queue
    state := a.state
    priority := a.priority
    retries := a.retries
    count := a.count
    intervalSeconds := a.intervalSeconds
    maximumBacklog := a.maximumBacklog
    tags := a.tags.getD default.tags
    throttles := a.throttles.getD default.throttles }

/-- The recurring job has the values of the arguments, and no tags or throttles if these were
omitted. -/
@[mk_iff]
structure Gives (a : RecurringJobArguments) (j : RecurringJob) : Prop where
  jid : a.jid = some j.jid
  className : a.className = some j.className
  data : a.data = some j.data
  queue : a.queue = some j.queue
  state : a.state = some j.state
  priority : a.priority = some j.priority
  retries : a.retries = some j.retries
  count : a.count = some j.count
  intervalSeconds : a.intervalSeconds = some j.intervalSeconds
  maximumBacklog : a.maximumBacklog = some j.maximumBacklog
  tags : a.tags.getD [] = j.tags
  throttles : a.throttles.getD [] = j.throttles

theorem gives_iff_draft {a : RecurringJobArguments} {j : RecurringJob} :
    a.Gives j ↔ a.draft = j.fields := by
  simp only [gives_iff, draft, RecurringJob.fields, RecurringJobDraft.mk.injEq]

/-- How a recurring job is built. -/
def declaration : Declaration RecurringJobArguments RecurringJob where
  record := "RecurringJob"
  rules :=
    [.given jid (.text "jid" id),
      .given className (.text "class_name" id),
      .given data (.text "data" id),
      .given queue (.optionalText "queue_name" id),
      .given state (.text "state" id),
      .given priority (.nonNegative "priority" id),
      .given retries (.nonNegative "retries" id),
      .given count (.nonNegative "count" id),
      .given intervalSeconds (.positive "interval_seconds" id),
      .given maximumBacklog (.nonNegative "maximum_backlog" id),
      .defaulted tags (.texts "tags" id),
      .defaulted throttles (.texts "throttles" id)]
  Gives := Gives

theorem errorOf?_build (a : RecurringJobArguments) :
    errorOf? a.draft.build = Declaration.firstRefusal? declaration.record declaration.rules a := by
  refine Declaration.errorOf?_bind Slot.errorOf?_text fun _ _ => ?_
  refine Declaration.errorOf?_bind Slot.errorOf?_text fun _ _ => ?_
  refine Declaration.errorOf?_bind Slot.errorOf?_text fun _ _ => ?_
  refine Declaration.errorOf?_bind_bind
    (Slot.errorOf?_given_bind fun _ => Slot.errorOf?_optionalText) fun _ => ?_
  refine Declaration.errorOf?_bind Slot.errorOf?_text fun _ _ => ?_
  refine Declaration.errorOf?_bind Slot.errorOf?_nonNegative fun _ _ => ?_
  refine Declaration.errorOf?_bind Slot.errorOf?_nonNegative fun _ _ => ?_
  refine Declaration.errorOf?_bind Slot.errorOf?_nonNegative fun _ _ => ?_
  refine Declaration.errorOf?_bind Slot.errorOf?_positive fun _ _ => ?_
  refine Declaration.errorOf?_bind Slot.errorOf?_nonNegative fun _ _ => ?_
  refine Declaration.errorOf?_bind (Slot.errorOf?_texts_getD a.tags) fun _ _ => ?_
  exact Declaration.errorOf?_bind (Slot.errorOf?_texts_getD a.throttles) fun _ _ => rfl

theorem declares : declaration.Declares fun a => a.draft.build :=
  .of_fields errorOf?_build (fun h => (RecurringJobDraft.build_eq_ok_iff.mp h).1) gives_iff_draft
    RecurringJob.fields_injective

end RecurringJobArguments

end JobWire
