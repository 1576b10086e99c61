import JobWire.Proofs.Envelope
import JobWire.Proofs.Independence
import JobWire.Proofs.Job.Normalization
import JobWire.Proofs.Queue.Reading

/-!
# Flat records in normal form

A *flat* record holds no event: a recurring job, or a record of a queue, of a worker or of a
throttle.  A flat record is read back as it was from what it is written as.  The other way round,
what it was read from comes back in normal form: with the properties of the record alone, in the
order in which they are written, and with the values that they had, but with an array for every
empty list, the empty text for a blank queue, and false where a priority pattern did not say whether
it is drained fairly.  The times of the phases in the statistics of a queue are put into normal form
themselves.

Failures, pages of jids and the jobs of a worker hold no event either, and are read back too.

**Results.**
* `FlatKind.toJson_normalizes`: what a flat record is written as, by what it was read from.
* `FlatKind.carried_through`: flat records, and the others that hold no event, through writing and
  reading, and through reading and writing.
-/

namespace JobWire

namespace RecurringJob

/-- The properties of a recurring job in normal form. -/
def forms : List Form :=
  [.verbatim "backlog", .verbatim "count", .verbatim "data", .verbatim "interval",
    .verbatim "jid", .verbatim "klass", .verbatim "priority", ⟨"queue", Json.blankAsEmpty⟩,
    .verbatim "retries", .verbatim "state", ⟨"tags", Json.emptyAsArray⟩,
    ⟨"throttles", Json.emptyAsArray⟩]

theorem ReadFrom.normalized {o : Object} {j : RecurringJob} (h : j.ReadFrom o) :
    j.toJson = .obj (o.normalized forms) := by
  obtain ⟨_, hqueue, hblank⟩ := h.queue
  obtain ⟨_, htags, htagTexts⟩ := h.tags.exists_emptyAsArray
  obtain ⟨_, hthrottles, hthrottleTexts⟩ := h.throttles.exists_emptyAsArray
  refine congrArg Json.obj (Eq.symm ?_)
  refine Object.normalized_cons h.maximumBacklog rfl ?_
  refine Object.normalized_cons h.count rfl ?_
  refine Object.normalized_cons h.data rfl ?_
  refine Object.normalized_cons h.intervalSeconds rfl ?_
  refine Object.normalized_cons h.jid rfl ?_
  refine Object.normalized_cons h.className rfl ?_
  refine Object.normalized_cons h.priority rfl ?_
  refine Object.normalized_cons hqueue (Job.blankAsEmpty_str hblank) ?_
  refine Object.normalized_cons h.retries rfl ?_
  refine Object.normalized_cons h.state rfl ?_
  refine Object.normalized_cons htags htagTexts ?_
  exact Object.normalized_cons hthrottles hthrottleTexts rfl

end RecurringJob

namespace QueueCounts

/-- The properties of the counts of a queue in normal form. -/
def forms : List Form :=
  [.verbatim "depends", .verbatim "name", .verbatim "paused", .verbatim "recurring",
    .verbatim "running", .verbatim "scheduled", .verbatim "stalled", .verbatim "throttled",
    .verbatim "waiting"]

theorem ReadFrom.normalized {o : Object} {c : QueueCounts} (h : c.ReadFrom o) :
    c.toJson = .obj (o.normalized forms) := by
  refine congrArg Json.obj (Eq.symm ?_)
  refine Object.normalized_cons h.depends rfl ?_
  refine Object.normalized_cons h.queue rfl ?_
  refine Object.normalized_cons h.paused rfl ?_
  refine Object.normalized_cons h.recurring rfl ?_
  refine Object.normalized_cons h.running rfl ?_
  refine Object.normalized_cons h.scheduled rfl ?_
  refine Object.normalized_cons h.stalled rfl ?_
  refine Object.normalized_cons h.throttled rfl ?_
  exact Object.normalized_cons h.waiting rfl rfl

end QueueCounts

namespace PhaseStats

/-- The properties of the times of a phase in normal form. -/
def forms : List Form :=
  [.verbatim "count", ⟨"histogram", Json.emptyAsArray⟩, .verbatim "mean", .verbatim "std"]

/-- The value that the times of a phase are written as after they were read. -/
def normalForm : Json → Json
  | .obj o => .obj (Object.normalized forms o)
  | v => v

theorem ReadFrom.normalized {o : Object} {s : PhaseStats} (h : s.ReadFrom o) :
    s.toJson = .obj (o.normalized forms) := by
  obtain ⟨_, hhistogram, hcounts⟩ := h.histogram.exists_emptyAsArray
  refine congrArg Json.obj (Eq.symm ?_)
  refine Object.normalized_cons h.count rfl ?_
  refine Object.normalized_cons hhistogram hcounts ?_
  refine Object.normalized_cons h.mean rfl ?_
  exact Object.normalized_cons h.standardDeviation rfl rfl

theorem normalForm_of_ofJson {v : Json} {s : PhaseStats} (h : (ofJson v).result = .ok s) :
    normalForm v = s.toJson := by
  obtain ⟨o, rfl, hread⟩ := result_ofJson_eq_ok_iff.mp h
  exact hread.normalized.symm

end PhaseStats

namespace QueueStats

/-- The properties of the statistics of a queue in normal form. -/
def forms : List Form :=
  [.verbatim "failed", .verbatim "failures", .verbatim "retries",
    ⟨"run", PhaseStats.normalForm⟩, ⟨"wait", PhaseStats.normalForm⟩]

theorem ReadFrom.normalized {o : Object} {s : QueueStats} (h : s.ReadFrom o) :
    s.toJson = .obj (o.normalized forms) := by
  obtain ⟨_, hrun, hrunTimes⟩ := h.run
  obtain ⟨_, hwait, hwaitTimes⟩ := h.wait
  refine congrArg Json.obj (Eq.symm ?_)
  refine Object.normalized_cons h.failed rfl ?_
  refine Object.normalized_cons h.failures rfl ?_
  refine Object.normalized_cons h.retries rfl ?_
  refine Object.normalized_cons hrun (PhaseStats.normalForm_of_ofJson hrunTimes) ?_
  exact Object.normalized_cons hwait (PhaseStats.normalForm_of_ofJson hwaitTimes) rfl

end QueueStats

namespace WorkerCounts

/-- The properties of the counts of a worker in normal form. -/
def forms : List Form :=
  [.verbatim "jobs", .verbatim "name", .verbatim "stalled"]

theorem ReadFrom.normalized {o : Object} {c : WorkerCounts} (h : c.ReadFrom o) :
    c.toJson = .obj (o.normalized forms) := by
  refine congrArg Json.obj (Eq.symm ?_)
  refine Object.normalized_cons h.jobs rfl ?_
  refine Object.normalized_cons h.worker rfl ?_
  exact Object.normalized_cons h.stalled rfl rfl

end WorkerCounts

namespace Throttle

/-- The properties of a throttle in normal form. -/
def forms : List Form :=
  [.verbatim "id", .verbatim "maximum", .verbatim "ttl"]

theorem ReadFrom.normalized {o : Object} {t : Throttle} (h : t.ReadFrom o) :
    t.toJson = .obj (o.normalized forms) := by
  refine congrArg Json.obj (Eq.symm ?_)
  refine Object.normalized_cons h.id rfl ?_
  refine Object.normalized_cons h.maximum rfl ?_
  exact Object.normalized_cons h.ttl rfl rfl

end Throttle

namespace PriorityPattern

/-- The properties of a priority pattern in normal form. -/
def forms : List Form :=
  [.verbatim "fairly", ⟨"pattern", Json.emptyAsArray⟩]

/-- The object, saying false where it did not say whether the patterns are drained fairly. -/
def completed (o : Object) : Object :=
  if (o.get? "fairly").isSome then o else ("fairly", .bool false) :: o

theorem get?_completed_fairly {o : Object} :
    (completed o).get? "fairly" = some ((o.get? "fairly").getD (.bool false)) := by
  unfold completed
  cases hget : o.get? "fairly" with
  | none =>
      exact Object.get?_cons_self
  | some v =>
      exact hget

theorem get?_completed_of_ne {o : Object} {name : String} (h : name ≠ "fairly") :
    (completed o).get? name = o.get? name := by
  unfold completed
  split_ifs
  · rfl
  · exact Object.get?_cons_of_ne h

theorem ReadFrom.normalized {o : Object} {p : PriorityPattern} (h : p.ReadFrom o) :
    p.toJson = .obj ((completed o).normalized forms) := by
  obtain ⟨v, hpattern, htexts⟩ := h.pattern.exists_emptyAsArray
  have hfairly : (completed o).get? "fairly" = some (.bool p.fairly) := by
    rw [get?_completed_fairly, h.fairly]
  have hcompleted : (completed o).get? "pattern" = some v := by
    rw [get?_completed_of_ne (by decide), hpattern]
  refine congrArg Json.obj (Eq.symm ?_)
  refine Object.normalized_cons hfairly rfl ?_
  exact Object.normalized_cons hcompleted htexts rfl

end PriorityPattern

/-- The flat records. -/
inductive FlatKind where
  | recurringJob | queueCounts | phaseStats | queueStats | workerCounts | throttle
  | priorityPattern
deriving DecidableEq

namespace FlatKind

/-- A flat record among all records. -/
def record : FlatKind → RecordKind
  | recurringJob => .recurringJob
  | queueCounts => .queueCounts
  | phaseStats => .phaseStats
  | queueStats => .queueStats
  | workerCounts => .workerCounts
  | throttle => .throttle
  | priorityPattern => .priorityPattern

/-- The value of a flat record. -/
def toJson : (k : FlatKind) → k.record.Model → Json
  | recurringJob => RecurringJob.toJson
  | queueCounts => QueueCounts.toJson
  | phaseStats => PhaseStats.toJson
  | queueStats => QueueStats.toJson
  | workerCounts => WorkerCounts.toJson
  | throttle => Throttle.toJson
  | priorityPattern => PriorityPattern.toJson

/-- The flat record is built from some fields. -/
def Accepts : (k : FlatKind) → k.record.Model → Prop
  | recurringJob, j => ∃ d : RecurringJobDraft, d.build = .ok j
  | queueCounts, c => ∃ d : QueueCountsDraft, d.build = .ok c
  | phaseStats, s => ∃ d : PhaseStatsDraft, d.build = .ok s
  | queueStats, s => ∃ d : QueueStatsDraft, d.build = .ok s
  | workerCounts, c => ∃ d : WorkerCountsDraft, d.build = .ok c
  | throttle, t => ∃ d : ThrottleDraft, d.build = .ok t
  | priorityPattern, p => ∃ d : PriorityPatternDraft, d.build = .ok p

/-- The properties of a flat record in normal form. -/
def forms : FlatKind → List Form
  | recurringJob => RecurringJob.forms
  | queueCounts => QueueCounts.forms
  | phaseStats => PhaseStats.forms
  | queueStats => QueueStats.forms
  | workerCounts => WorkerCounts.forms
  | throttle => Throttle.forms
  | priorityPattern => PriorityPattern.forms

/-- The properties that a record always has when written, and need not have when read. -/
def optionalNames : FlatKind → List String
  | priorityPattern => ["fairly"]
  | _ => []

/-- The object with its optional properties. -/
def completed : FlatKind → Object → Object
  | priorityPattern, o => PriorityPattern.completed o
  | _, o => o

/-- The object has the properties of the record alone, in order and in normal form. -/
structure NormalForm (k : FlatKind) (o members : Object) : Prop where
  names : members.names = k.optionalNames ++ k.record.shape.names
  forms : members.names = k.forms.map Form.property
  values : ∀ f ∈ k.forms, ∃ v, (k.completed o).get? f.property = some v ∧
    members.get? f.property = some (f.settle v)

variable {k : FlatKind} {o : Object} {v : Json} {a : k.record.Model}

theorem forms_names (k : FlatKind) :
    k.forms.map Form.property = k.optionalNames ++ k.record.shape.names := by
  cases k <;> rfl

theorem nodup_forms (k : FlatKind) : (k.forms.map Form.property).Nodup := by
  cases k <;> decide

/-- Every property that is written is there when it is read, or optional. -/
theorem exists_value (h : k.record.shape.Fits o) :
    ∀ f ∈ k.forms, ∃ v, (k.completed o).get? f.property = some v := by
  intro f hf
  have hname : f.property ∈ k.optionalNames ++ k.record.shape.names :=
    forms_names k ▸ List.mem_map_of_mem hf
  cases k with
  | priorityPattern =>
      rcases List.mem_cons.mp hname with hfairly | hdeclared
      · rw [hfairly]
        exact ⟨_, PriorityPattern.get?_completed_fairly⟩
      · obtain ⟨v, hget⟩ := h.exists_value hdeclared
        have hne : f.property ≠ "fairly" := by
          rw [List.mem_singleton.mp hdeclared]
          decide
        exact ⟨v, (PriorityPattern.get?_completed_of_ne hne).trans hget⟩
  | recurringJob | queueCounts | phaseStats | queueStats | workerCounts | throttle =>
      exact h.exists_value hname

/-- A flat record is written as the normal form of the object that it was read from. -/
theorem toJson_normalizes (h : (k.record.ofJson v).result = .ok a) :
    ∃ o, v = .obj o ∧ k.record.shape.Fits o ∧
      k.toJson a = .obj ((k.completed o).normalized k.forms) := by
  cases k with
  | recurringJob =>
      obtain ⟨o, rfl, hread, -⟩ := RecurringJob.result_ofJson_eq_ok_iff.mp h
      exact ⟨o, rfl, hread.fits, hread.normalized⟩
  | queueCounts =>
      obtain ⟨o, rfl, hread, -⟩ := QueueCounts.result_ofJson_eq_ok_iff.mp h
      exact ⟨o, rfl, hread.fits, hread.normalized⟩
  | phaseStats =>
      obtain ⟨o, rfl, hread⟩ := PhaseStats.result_ofJson_eq_ok_iff.mp h
      exact ⟨o, rfl, hread.fits, hread.normalized⟩
  | queueStats =>
      obtain ⟨o, rfl, hread⟩ := QueueStats.result_ofJson_eq_ok_iff.mp h
      exact ⟨o, rfl, hread.fits, hread.normalized⟩
  | workerCounts =>
      obtain ⟨o, rfl, hread, -⟩ := WorkerCounts.result_ofJson_eq_ok_iff.mp h
      exact ⟨o, rfl, hread.fits, hread.normalized⟩
  | throttle =>
      obtain ⟨o, rfl, hread, -⟩ := Throttle.result_ofJson_eq_ok_iff.mp h
      exact ⟨o, rfl, hread.fits, hread.normalized⟩
  | priorityPattern =>
      obtain ⟨o, rfl, hread, -⟩ := PriorityPattern.result_ofJson_eq_ok_iff.mp h
      exact ⟨o, rfl, hread.fits, hread.normalized⟩

theorem normalForm_normalized (h : k.record.shape.Fits o) :
    k.NormalForm o ((k.completed o).normalized k.forms) := by
  have hvalues := exists_value h
  have hnames := Object.names_normalized hvalues
  refine ⟨hnames.trans (forms_names k), hnames, fun f hf => ?_⟩
  obtain ⟨v, hget⟩ := hvalues f hf
  refine ⟨v, hget, ?_⟩
  rw [Object.get?_normalized (nodup_forms k) hf, hget, Option.map_some]

/-- A flat record that was built is read back from its own value. -/
theorem result_ofJson_toJson (h : k.Accepts a) : (k.record.ofJson (k.toJson a)).result = .ok a := by
  cases k with
  | recurringJob =>
      obtain ⟨d, hbuild⟩ := h
      exact RecurringJob.result_ofJson_toJson (RecurringJobDraft.build_eq_ok_iff.mp hbuild).2
  | queueCounts =>
      obtain ⟨d, hbuild⟩ := h
      exact QueueCounts.result_ofJson_toJson (QueueCountsDraft.build_eq_ok_iff.mp hbuild).2
  | phaseStats =>
      exact PhaseStats.result_ofJson_toJson a
  | queueStats =>
      exact QueueStats.result_ofJson_toJson a
  | workerCounts =>
      obtain ⟨d, hbuild⟩ := h
      exact WorkerCounts.result_ofJson_toJson (WorkerCountsDraft.build_eq_ok_iff.mp hbuild).2
  | throttle =>
      obtain ⟨d, hbuild⟩ := h
      exact Throttle.result_ofJson_toJson (ThrottleDraft.build_eq_ok_iff.mp hbuild).2
  | priorityPattern =>
      obtain ⟨d, hbuild⟩ := h
      exact PriorityPattern.result_ofJson_toJson (PriorityPatternDraft.build_eq_ok_iff.mp hbuild).2

end FlatKind

/-- The records and envelopes that hold no event. -/
inductive EventlessKind where
  | flat (k : FlatKind) | failure | jidsResult | workerJobs
deriving DecidableEq

namespace EventlessKind

/-- A kind without events among all kinds. -/
def root : EventlessKind → RootKind
  | flat k => .record k.record
  | failure => .record .failure
  | jidsResult => .envelope .jidsResult
  | workerJobs => .envelope .workerJobs

/-- The value of a record or of an envelope. -/
def toJson : (k : EventlessKind) → k.root.Model → Json
  | flat k => k.toJson
  | failure => Failure.toJson
  | jidsResult => JidsResult.toJson
  | workerJobs => WorkerJobs.toJson

/-- The failure, if there is one, is built from some fields. -/
def FailureAccepted (failure : Option Failure) : Prop :=
  ∀ f ∈ failure, ∃ d : FailureDraft, d.build = .ok f

/-- The record is built from some fields.  Envelopes are not checked when they are built. -/
def Accepts : (k : EventlessKind) → k.root.Model → Prop
  | flat k, a => k.Accepts a
  | failure, f => FailureAccepted f
  | jidsResult, _ | workerJobs, _ => True

theorem FailureAccepted.valid {failure : Option Failure} (h : FailureAccepted failure) :
    ∀ f ∈ failure, f.Valid := by
  intro f hf
  obtain ⟨d, hbuild⟩ := h f hf
  exact (FailureDraft.build_eq_ok_iff.mp hbuild).2

theorem result_ofJson_toJson {k : EventlessKind} {a : k.root.Model} (h : k.Accepts a) :
    (k.root.ofJson (k.toJson a)).result = .ok a := by
  cases k with
  | flat k =>
      exact FlatKind.result_ofJson_toJson h
  | failure =>
      exact Failure.result_ofJson_toJson (FailureAccepted.valid h)
  | jidsResult =>
      exact JidsResult.result_ofJson_toJson a
  | workerJobs =>
      exact WorkerJobs.result_ofJson_toJson a

end EventlessKind

namespace FlatKind

/-- What is built without events is read back from its own value; and a flat record is written in
the normal form of the object that it was read from. -/
theorem carried_through :
    (∀ (k : EventlessKind) (a : k.root.Model), k.Accepts a →
      (k.root.ofJson (k.toJson a)).result = .ok a) ∧
    ∀ (k : FlatKind) (v : Json) (a : k.record.Model), (k.record.ofJson v).result = .ok a →
      ∃ o members, v = .obj o ∧ k.toJson a = .obj members ∧ k.NormalForm o members := by
  constructor
  · intro k a h
    exact EventlessKind.result_ofJson_toJson h
  · intro k v a h
    obtain ⟨o, rfl, hfits, hwritten⟩ := toJson_normalizes h
    exact ⟨o, _, rfl, hwritten, normalForm_normalized hfits⟩

/-- The statistics of a queue in no order, with an empty object for a histogram, and with further
properties in them and in the times of a phase. -/
def unorderedStats : Json :=
  .obj
    [("wait", .obj [("seen", .null), ("std", .int 1), ("histogram", .obj []), ("mean", .int 2),
        ("count", .int 3)]),
      ("day", .int 4), ("retries", .int 5), ("failures", .int 6), ("failed", .int 7),
      ("run", .obj [("count", .int 8), ("mean", .int 9), ("std", .int 10),
        ("histogram", .arr [.int 11, .int 12])])]

theorem carried_through_unorderedStats :
    ∃ s : QueueStats, (QueueStats.ofJson unorderedStats).result = .ok s ∧
      queueStats.Accepts s ∧ (QueueStats.ofJson s.toJson).result = .ok s ∧
      ∃ o members, unorderedStats = .obj o ∧ s.toJson = .obj members ∧
        queueStats.NormalForm o members ∧
        members =
          [("failed", .int 7), ("failures", .int 6), ("retries", .int 5),
            ("run", .obj [("count", .int 8), ("histogram", .arr [.int 11, .int 12]),
              ("mean", .int 9), ("std", .int 10)]),
            ("wait", .obj [("count", .int 3), ("histogram", .arr []), ("mean", .int 2),
              ("std", .int 1)])] := by
  have hread : (QueueStats.ofJson unorderedStats).result = .ok {
      failed := 7, failures := 6, retries := 5
      run := ⟨8, 9, 10, [11, 12]⟩
      wait := ⟨3, 2, 1, []⟩ } := by
    decide
  obtain ⟨hback, hthrough⟩ := carried_through
  obtain ⟨o, members, ho, hmembers, hform⟩ := hthrough queueStats unorderedStats _ hread
  have haccepts : ∀ s : QueueStats, queueStats.Accepts s :=
    fun s => ⟨s.fields, QueueStatsDraft.build_eq_ok_iff.mpr rfl⟩
  refine ⟨_, hread, haccepts _, hback (.flat .queueStats) _ (haccepts _), o, members, ho,
    hmembers, hform, ?_⟩
  exact (Json.obj.inj hmembers).symm

end FlatKind

end JobWire
