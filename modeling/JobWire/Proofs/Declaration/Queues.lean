import JobWire.Envelope
import JobWire.Proofs.Declaration.Rules
import JobWire.Proofs.Queue.Construction

/-!
# Declarations of envelopes and of the records of queues

The fields of an envelope all have defaults and may be anything, so an envelope is always built.  Of
the records of queues, workers and throttles every field must be given, but for the histogram of a
phase and whether a pattern is drained fairly; only names and patterns may be at fault.

**Results.**
* `JidsArguments.declares`, `TrackedJobsArguments.declares`, `WorkerJobsArguments.declares`:
  envelopes are built as they are declared.
* `QueueCountsDraft.declares`, `PhaseStatsArguments.declares`, `QueueStatsDraft.declares`,
  `WorkerCountsDraft.declares`, `ThrottleDraft.declares`, `PatternArguments.declares`: so are the
  records of queues.
-/

namespace JobWire

section Envelopes

/-- A builder that never fails is declared without rules. -/
theorem Declaration.declares_of_total {α β : Type} {record : String} {Gives : α → β → Prop}
    {f : α → β} (h : ∀ {a b}, Gives a b ↔ f a = b) :
    Declares ⟨record, [], Gives⟩ fun a => .ok (f a) where
  errorOf?_build _ := rfl
  gives hbuild := h.mpr (Except.ok.inj hbuild)
  unique hb hc := (h.mp hb).symm.trans (h.mp hc)

/-- The arguments of a page of jids. -/
structure JidsArguments where
  jids : Option (List String) := none
  total : Option Int := none

namespace JidsArguments

/-- The page of the arguments; a field that was omitted keeps its default. -/
def result (a : JidsArguments) : JidsResult :=
  let default : JidsResult := {}
  { jids := a.jids.getD default.jids
    total := a.total.getD default.total }

/-- How a page of jids is built. -/
def declaration : Declaration JidsArguments JidsResult where
  record := "JidsResult"
  rules := []
  Gives a r := a.jids.getD [] = r.jids ∧ a.total.getD 0 = r.total

theorem declares : declaration.Declares fun a => .ok a.result :=
  Declaration.declares_of_total fun {_ _} => (JidsResult.mk.injEq ..).symm.to_iff

end JidsArguments

/-- The arguments of tracked jobs. -/
structure TrackedJobsArguments where
  jobs : Option (List Job) := none
  expiredJids : Option (List String) := none

namespace TrackedJobsArguments

/-- The tracked jobs of the arguments; a field that was omitted keeps its default. -/
def result (a : TrackedJobsArguments) : TrackedJobs :=
  let default : TrackedJobs := {}
  { jobs := a.jobs.getD default.jobs
    expiredJids := a.expiredJids.getD default.expiredJids }

/-- How tracked jobs are built. -/
def declaration : Declaration TrackedJobsArguments TrackedJobs where
  record := "TrackedJobsResult"
  rules := []
  Gives a t := a.jobs.getD [] = t.jobs ∧ a.expiredJids.getD [] = t.expiredJids

theorem declares : declaration.Declares fun a => .ok a.result :=
  Declaration.declares_of_total fun {_ _} => (TrackedJobs.mk.injEq ..).symm.to_iff

end TrackedJobsArguments

/-- The arguments of the jobs of a worker. -/
structure WorkerJobsArguments where
  jids : Option (List String) := none
  stalledJids : Option (List String) := none

namespace WorkerJobsArguments

/-- The jobs of the arguments; a field that was omitted keeps its default. -/
def result (a : WorkerJobsArguments) : WorkerJobs :=
  let default : WorkerJobs := {}
  { jids := a.jids.getD default.jids
    stalledJids := a.stalledJids.getD default.stalledJids }

/-- How the jobs of a worker are built. -/
def declaration : Declaration WorkerJobsArguments WorkerJobs where
  record := "WorkerJobs"
  rules := []
  Gives a w := a.jids.getD [] = w.jids ∧ a.stalledJids.getD [] = w.stalledJids

theorem declares : declaration.Declares fun a => .ok a.result :=
  Declaration.declares_of_total fun {_ _} => (WorkerJobs.mk.injEq ..).symm.to_iff

end WorkerJobsArguments

end Envelopes

section Records

namespace QueueCountsDraft

/-- How the counts of a queue are built. -/
def declaration : Declaration QueueCountsDraft QueueCounts where
  record := "QueueCounts"
  rules :=
    [.given queue (.text "queue_name" id),
      .given paused (.any "paused"),
      .given depends (.any "depends"),
      .given recurring (.any "recurring"),
      .given running (.any "running"),
      .given scheduled (.any "scheduled"),
      .given stalled (.any "stalled"),
      .given throttled (.any "throttled"),
      .given waiting (.any "waiting")]
  Gives d c := d = c.fields

theorem errorOf?_build (d : QueueCountsDraft) :
    errorOf? d.build = Declaration.firstRefusal? declaration.record declaration.rules d := by
  refine Declaration.errorOf?_bind Slot.errorOf?_text fun _ _ => ?_
  refine Declaration.errorOf?_bind Slot.errorOf?_given fun _ _ => ?_
  refine Declaration.errorOf?_bind Slot.errorOf?_given fun _ _ => ?_
  refine Declaration.errorOf?_bind Slot.errorOf?_given fun _ _ => ?_
  refine Declaration.errorOf?_bind Slot.errorOf?_given fun _ _ => ?_
  refine Declaration.errorOf?_bind Slot.errorOf?_given fun _ _ => ?_
  refine Declaration.errorOf?_bind Slot.errorOf?_given fun _ _ => ?_
  refine Declaration.errorOf?_bind Slot.errorOf?_given fun _ _ => ?_
  exact Declaration.errorOf?_bind Slot.errorOf?_given fun _ _ => rfl

theorem declares : declaration.Declares build :=
  .of_fields errorOf?_build (fun h => (build_eq_ok_iff.mp h).1) Iff.rfl
    QueueCounts.fields_injective

end QueueCountsDraft

/-- The arguments of the times of a phase. -/
structure PhaseStatsArguments where
  count : Option Int := none
  mean : Option Int := none
  standardDeviation : Option Int := none
  histogram : Option (List Int) := none

namespace PhaseStatsArguments

/-- The fields that the arguments fill; a histogram that was omitted keeps its default. -/
def draft (a : PhaseStatsArguments) : PhaseStatsDraft :=
  let default : PhaseStatsDraft := {}
  { count := a.count
    mean := a.mean
    standardDeviation := a.standardDeviation
    histogram := a.histogram.getD default.histogram }

/-- How the times of a phase are built. -/
def declaration : Declaration PhaseStatsArguments PhaseStats where
  record := "QueueStateStats"
  rules :=
    [.given count (.any "count"),
      .given mean (.any "mean"),
      .given standardDeviation (.any "standard_deviation")]
  Gives a s :=
    a.count = some s.count ∧ a.mean = some s.mean ∧
      a.standardDeviation = some s.standardDeviation ∧ a.histogram.getD [] = s.histogram

theorem gives_iff_draft {a : PhaseStatsArguments} {s : PhaseStats} :
    declaration.Gives a s ↔ a.draft = s.fields := by
  simp only [declaration, draft, PhaseStats.fields, PhaseStatsDraft.mk.injEq]

theorem errorOf?_build (a : PhaseStatsArguments) :
    errorOf? a.draft.build = Declaration.firstRefusal? declaration.record declaration.rules a := by
  refine Declaration.errorOf?_bind Slot.errorOf?_given fun _ _ => ?_
  refine Declaration.errorOf?_bind Slot.errorOf?_given fun _ _ => ?_
  exact Declaration.errorOf?_bind Slot.errorOf?_given fun _ _ => rfl

theorem declares : declaration.Declares fun a => a.draft.build :=
  .of_fields errorOf?_build (PhaseStatsDraft.build_eq_ok_iff.mp) gives_iff_draft
    PhaseStats.fields_injective

end PhaseStatsArguments

namespace QueueStatsDraft

/-- How the statistics of a queue are built. -/
def declaration : Declaration QueueStatsDraft QueueStats where
  record := "QueueStats"
  rules :=
    [.given failed (.any "failed"),
      .given failures (.any "failures"),
      .given retries (.any "retries"),
      .given run (.any "run"),
      .given wait (.any "wait")]
  Gives d s := d = s.fields

theorem errorOf?_build (d : QueueStatsDraft) :
    errorOf? d.build = Declaration.firstRefusal? declaration.record declaration.rules d := by
  refine Declaration.errorOf?_bind Slot.errorOf?_given fun _ _ => ?_
  refine Declaration.errorOf?_bind Slot.errorOf?_given fun _ _ => ?_
  refine Declaration.errorOf?_bind Slot.errorOf?_given fun _ _ => ?_
  refine Declaration.errorOf?_bind Slot.errorOf?_given fun _ _ => ?_
  exact Declaration.errorOf?_bind Slot.errorOf?_given fun _ _ => rfl

theorem declares : declaration.Declares build :=
  .of_fields errorOf?_build (build_eq_ok_iff.mp) Iff.rfl
    QueueStats.fields_injective

end QueueStatsDraft

namespace WorkerCountsDraft

/-- How the counts of a worker are built. -/
def declaration : Declaration WorkerCountsDraft WorkerCounts where
  record := "WorkerCounts"
  rules :=
    [.given worker (.text "worker_name" id),
      .given jobs (.any "jobs"),
      .given stalled (.any "stalled")]
  Gives d c := d = c.fields

theorem errorOf?_build (d : WorkerCountsDraft) :
    errorOf? d.build = Declaration.firstRefusal? declaration.record declaration.rules d := by
  refine Declaration.errorOf?_bind Slot.errorOf?_text fun _ _ => ?_
  refine Declaration.errorOf?_bind Slot.errorOf?_given fun _ _ => ?_
  exact Declaration.errorOf?_bind Slot.errorOf?_given fun _ _ => rfl

theorem declares : declaration.Declares build :=
  .of_fields errorOf?_build (fun h => (build_eq_ok_iff.mp h).1) Iff.rfl
    WorkerCounts.fields_injective

end WorkerCountsDraft

namespace ThrottleDraft

/-- How a throttle is built. -/
def declaration : Declaration ThrottleDraft Throttle where
  record := "Throttle"
  rules :=
    [.given ThrottleDraft.id (.text "id" fun s => s),
      .given maximum (.any "maximum"),
      .given ttl (.any "ttl")]
  Gives d t := d = t.fields

theorem errorOf?_build (d : ThrottleDraft) :
    errorOf? d.build = Declaration.firstRefusal? declaration.record declaration.rules d := by
  refine Declaration.errorOf?_bind Slot.errorOf?_text fun _ _ => ?_
  refine Declaration.errorOf?_bind Slot.errorOf?_given fun _ _ => ?_
  exact Declaration.errorOf?_bind Slot.errorOf?_given fun _ _ => rfl

theorem declares : declaration.Declares build :=
  .of_fields errorOf?_build (fun h => (build_eq_ok_iff.mp h).1) Iff.rfl
    Throttle.fields_injective

end ThrottleDraft

/-- The arguments of a priority pattern. -/
structure PatternArguments where
  pattern : Option (List String) := none
  fairly : Option Bool := none

namespace PatternArguments

/-- The fields that the arguments fill; whether the patterns are drained fairly has a default. -/
def draft (a : PatternArguments) : PriorityPatternDraft :=
  let default : PriorityPatternDraft := {}
  { pattern := a.pattern
    fairly := a.fairly.getD default.fairly }

/-- How a priority pattern is built. -/
def declaration : Declaration PatternArguments PriorityPattern where
  record := "QueuePriorityPattern"
  rules := [.given pattern (.texts "pattern" id)]
  Gives a p := a.pattern = some p.pattern ∧ a.fairly.getD false = p.fairly

theorem gives_iff_draft {a : PatternArguments} {p : PriorityPattern} :
    declaration.Gives a p ↔ a.draft = p.fields := by
  simp only [declaration, draft, PriorityPattern.fields, PriorityPatternDraft.mk.injEq]

theorem errorOf?_build (a : PatternArguments) :
    errorOf? a.draft.build = Declaration.firstRefusal? declaration.record declaration.rules a :=
  Declaration.errorOf?_bind_bind (Slot.errorOf?_given_bind fun _ => Slot.errorOf?_texts)
    fun _ => rfl

theorem declares : declaration.Declares fun a => a.draft.build :=
  .of_fields errorOf?_build (fun h => (PriorityPatternDraft.build_eq_ok_iff.mp h).1) gives_iff_draft
    PriorityPattern.fields_injective

end PatternArguments

end Records

end JobWire
