import JobWire.Proofs.Job.Grammar
import JobWire.Proofs.Queue.Normalization

/-!
# The grammars of flat records

A recurring job and the records of a queue, of a worker and of a throttle are read in the order of
their fields, while their properties are declared in the order of their names.  Their readers ask
for values of one kind, or for lists of such values; only the times of a phase, inside the
statistics of a queue, are a record of their own, and what is wrong with them is passed on as it is.
A recurring job has constraints on most of its fields, each of the other records on one text at
most: every other integer may be as large and as small as it likes.

**Results.**
* `RecurringJob.governs`, `QueueCounts.governs`, `PhaseStats.governs`, `QueueStats.governs`,
  `WorkerCounts.governs`, `Throttle.governs`, `PriorityPattern.governs`: flat records are decoded by
  their grammars.
* `FlatKind.decided_by_grammar`: what is reported of a value that is to be a flat record, for every
  value, with the place of a refusal and what stands for a blank or an absent property.
-/

namespace JobWire

namespace RecurringJob

/-- What a recurring job is decoded from. -/
def grammar : Grammar RecurringJob where
  record := "RecurringJob"
  shape := shape
  readers :=
    [.kind "jid" .string,
      .kind "klass" .string,
      .kind "data" .string,
      .kind "queue" .string,
      .kind "state" .string,
      .kind "priority" .integer,
      .kind "retries" .integer,
      .kind "count" .integer,
      .kind "interval" .integer,
      .kind "backlog" .integer,
      .items "tags" .string "an array of strings",
      .items "throttles" .string "an array of strings"]
  rules :=
    [.text "jid" RecurringJob.jid,
      .text "class_name" RecurringJob.className,
      .text "data" RecurringJob.data,
      .text "state" RecurringJob.state,
      .nonNegative "priority" RecurringJob.priority,
      .nonNegative "retries" RecurringJob.retries,
      .nonNegative "count" RecurringJob.count,
      .positive "interval_seconds" RecurringJob.intervalSeconds,
      .nonNegative "maximum_backlog" RecurringJob.maximumBacklog,
      .texts "tags" RecurringJob.tags,
      .texts "throttles" RecurringJob.throttles]
  ReadFrom o j := j.ReadFrom o

variable {o : Object} {j : RecurringJob}

theorem ReadFrom.queue_ok (h : j.ReadFrom o) : NoneOrNotBlank j.queue := by
  obtain ⟨s, -, hs⟩ := h.queue
  exact hs ▸ Job.noneOrNotBlank_ite

theorem errorOf?_draft (h : shape.Fits o) :
    errorOf? (draft o).result = grammar.readers.findSome? fun r => r.fault? o := by
  have hvalue : ∀ {name}, name ∈ shape.names → ∃ v, o.get? name = some v :=
    fun hname => h.exists_value hname
  simp only [draft, Traced.result_bind, Traced.result_lift, Object.result_strings, grammar,
    ← Reader.of_asString, ← Reader.of_asInt, ← Reader.of_strings]
  refine Reader.errorOf?_read_bind (hvalue (by simp [shape])) fun _ => ?_
  refine Reader.errorOf?_read_bind (hvalue (by simp [shape])) fun _ => ?_
  refine Reader.errorOf?_read_bind (hvalue (by simp [shape])) fun _ => ?_
  refine Reader.errorOf?_read_bind (hvalue (by simp [shape])) fun _ => ?_
  refine Reader.errorOf?_read_bind (hvalue (by simp [shape])) fun _ => ?_
  refine Reader.errorOf?_read_bind (hvalue (by simp [shape])) fun _ => ?_
  refine Reader.errorOf?_read_bind (hvalue (by simp [shape])) fun _ => ?_
  refine Reader.errorOf?_read_bind (hvalue (by simp [shape])) fun _ => ?_
  refine Reader.errorOf?_read_bind (hvalue (by simp [shape])) fun _ => ?_
  refine Reader.errorOf?_read_bind (hvalue (by simp [shape])) fun _ => ?_
  refine Reader.errorOf?_read_bind (hvalue (by simp [shape])) fun _ => ?_
  exact Reader.errorOf?_read_bind (hvalue (by simp [shape])) fun _ => rfl

theorem exists_readFrom {d : RecurringJobDraft} (h : (draft o).result = .ok d) :
    ∃ j : RecurringJob, j.ReadFrom o := by
  simp only [draft, Traced.result_bind_eq_ok_iff, Traced.result_lift, Object.string_eq_ok_iff,
    Object.int_eq_ok_iff, Object.result_strings_eq_ok_iff] at h
  obtain ⟨jid, hjid, className, hclass, data, hdata, queue, hqueue, state, hstate,
    priority, hpriority, retries, hretries, count, hcount, interval, hinterval,
    backlog, hbacklog, tags, htags, throttles, hthrottles, -⟩ := h
  let j : RecurringJob := ⟨jid, className, data, if NotBlank queue then some queue else none, state,
    priority, retries, count, interval, backlog, tags, throttles⟩
  exact ⟨j, ⟨hjid, hclass, hdata, ⟨_, hqueue, rfl⟩, hstate, hpriority, hretries, hcount, hinterval,
    hbacklog, htags, hthrottles⟩⟩

theorem build_fields (h : j.ReadFrom o) :
    j.fields.build = Grammar.judge grammar.record j grammar.rules := by
  refine Grammar.ensure_bind_eq_judge ?_ rfl rfl
  refine Grammar.ensure_bind_eq_judge ?_ rfl rfl
  refine Grammar.ensure_bind_eq_judge ?_ rfl rfl
  refine Slot.given_bind.trans ((Grammar.ensure_bind_of_pos h.queue_ok).trans ?_)
  refine Grammar.ensure_bind_eq_judge ?_ rfl rfl
  refine Grammar.ensure_bind_eq_judge ?_ rfl rfl
  refine Grammar.ensure_bind_eq_judge ?_ rfl rfl
  refine Grammar.ensure_bind_eq_judge ?_ rfl rfl
  refine Grammar.ensure_bind_eq_judge ?_ rfl rfl
  refine Grammar.ensure_bind_eq_judge ?_ rfl rfl
  refine Grammar.ensure_bind_eq_judge ?_ rfl rfl
  refine Grammar.ensure_bind_eq_judge ?_ rfl rfl
  rfl

/-- Recurring jobs are decoded by their grammar. -/
theorem governs : grammar.Governs draft RecurringJobDraft.build where
  errorOf?_draft := errorOf?_draft
  exists_readFrom := exists_readFrom
  exists_draft h := ⟨_, result_draft_eq_ok_iff.mpr h, build_fields h⟩

end RecurringJob

namespace QueueCounts

/-- What the counts of a queue are decoded from. -/
def grammar : Grammar QueueCounts where
  record := "QueueCounts"
  shape := shape
  readers :=
    [.kind "name" .string,
      .kind "paused" .boolean,
      .kind "depends" .integer,
      .kind "recurring" .integer,
      .kind "running" .integer,
      .kind "scheduled" .integer,
      .kind "stalled" .integer,
      .kind "throttled" .integer,
      .kind "waiting" .integer]
  rules := [.text "queue_name" QueueCounts.queue]
  ReadFrom o c := c.ReadFrom o

/-- The counts of a queue are decoded by their grammar. -/
theorem governs : grammar.Governs (fun o => liftM (draft o)) QueueCountsDraft.build where
  errorOf?_draft h := by
    have hvalue : ∀ {name}, name ∈ shape.names → ∃ v, Object.get? _ name = some v :=
      fun hname => h.exists_value hname
    simp only [Traced.result_lift, draft, grammar, ← Reader.of_asString, ← Reader.of_asInt,
      ← Reader.of_asBool]
    refine Reader.errorOf?_read_bind (hvalue (by simp [shape])) fun _ => ?_
    refine Reader.errorOf?_read_bind (hvalue (by simp [shape])) fun _ => ?_
    refine Reader.errorOf?_read_bind (hvalue (by simp [shape])) fun _ => ?_
    refine Reader.errorOf?_read_bind (hvalue (by simp [shape])) fun _ => ?_
    refine Reader.errorOf?_read_bind (hvalue (by simp [shape])) fun _ => ?_
    refine Reader.errorOf?_read_bind (hvalue (by simp [shape])) fun _ => ?_
    refine Reader.errorOf?_read_bind (hvalue (by simp [shape])) fun _ => ?_
    refine Reader.errorOf?_read_bind (hvalue (by simp [shape])) fun _ => ?_
    exact Reader.errorOf?_read_bind (hvalue (by simp [shape])) fun _ => rfl
  exists_readFrom h := by
    simp only [Traced.result_lift, draft, bind_eq_ok_iff, Object.string_eq_ok_iff,
      Object.bool_eq_ok_iff, Object.int_eq_ok_iff] at h
    obtain ⟨queue, hqueue, paused, hpaused, depends, hdepends, recurring, hrecurring,
      running, hrunning, scheduled, hscheduled, stalled, hstalled, throttled, hthrottled,
      waiting, hwaiting, -⟩ := h
    exact ⟨⟨queue, paused, depends, recurring, running, scheduled, stalled, throttled, waiting⟩,
      ⟨hqueue, hpaused, hdepends, hrecurring, hrunning, hscheduled, hstalled, hthrottled,
        hwaiting⟩⟩
  exists_draft {o c} h := by
    refine ⟨c.fields, draft_eq_ok_iff.mpr h, ?_⟩
    refine Grammar.ensure_bind_eq_judge ?_ rfl rfl
    rfl

end QueueCounts

namespace PhaseStats

/-- What the times of a phase are decoded from. -/
def grammar : Grammar PhaseStats where
  record := "QueueStateStats"
  shape := shape
  readers :=
    [.kind "count" .integer,
      .kind "mean" .integer,
      .kind "std" .integer,
      .items "histogram" .integer "an array of integers"]
  rules := []
  ReadFrom o s := s.ReadFrom o

/-- The times of a phase are decoded by their grammar. -/
theorem governs : grammar.Governs draft PhaseStatsDraft.build where
  errorOf?_draft h := by
    have hvalue : ∀ {name}, name ∈ shape.names → ∃ v, Object.get? _ name = some v :=
      fun hname => h.exists_value hname
    simp only [draft, Traced.result_bind, Traced.result_lift, Object.result_ints, grammar,
      ← Reader.of_asInt, ← Reader.of_ints]
    refine Reader.errorOf?_read_bind (hvalue (by simp [shape])) fun _ => ?_
    refine Reader.errorOf?_read_bind (hvalue (by simp [shape])) fun _ => ?_
    refine Reader.errorOf?_read_bind (hvalue (by simp [shape])) fun _ => ?_
    exact Reader.errorOf?_read_bind (hvalue (by simp [shape])) fun _ => rfl
  exists_readFrom h := by
    simp only [draft, Traced.result_bind_eq_ok_iff, Traced.result_lift,
      Object.int_eq_ok_iff, Object.result_ints_eq_ok_iff] at h
    obtain ⟨count, hcount, mean, hmean, deviation, hdeviation, histogram, hhistogram, -⟩ := h
    exact ⟨⟨count, mean, deviation, histogram⟩, ⟨hcount, hmean, hdeviation, hhistogram⟩⟩
  exists_draft h := ⟨_, result_draft_eq_ok_iff.mpr h, rfl⟩

theorem result_ofJson_eq_iff {v : Json} {r : Decoded PhaseStats} :
    (ofJson v).result = r ↔ grammar.Verdict v r :=
  governs.result_eq_iff

/-- The times of a phase are never refused for their values. -/
theorem result_ofJson_ne_invalid {v : Json} {i : Invalid} :
    (ofJson v).result ≠ .error (.invalid i) := by
  intro h
  rcases (result_ofJson_eq_iff.mp h).location_mem with ⟨-, hplace⟩ | ⟨r, hr, w, hfault⟩
  · cases hplace
  · have hdirect : ∀ r ∈ grammar.readers, r.Direct := by
      simp only [grammar, List.forall_mem_cons]
      exact ⟨Reader.direct_kind, Reader.direct_kind, Reader.direct_kind, Reader.direct_items,
        by simp⟩
    exact hdirect r hr w i hfault

end PhaseStats

namespace QueueStats

/-- What the statistics of a queue are decoded from.  The faults of the times of a phase are those
of the record inside. -/
def grammar : Grammar QueueStats where
  record := "QueueStats"
  shape := shape
  readers :=
    [.kind "failed" .integer,
      .kind "failures" .integer,
      .kind "retries" .integer,
      .of "run" fun v => (PhaseStats.ofJson v).result,
      .of "wait" fun v => (PhaseStats.ofJson v).result]
  rules := []
  ReadFrom o s := s.ReadFrom o

/-- The statistics of a queue are decoded by their grammar. -/
theorem governs : grammar.Governs draft QueueStatsDraft.build where
  errorOf?_draft h := by
    have hvalue : ∀ {name}, name ∈ shape.names → ∃ v, Object.get? _ name = some v :=
      fun hname => h.exists_value hname
    simp only [draft, Traced.result_bind, Traced.result_lift, grammar, ← Reader.of_asInt]
    refine Reader.errorOf?_read_bind (hvalue (by simp [shape])) fun _ => ?_
    refine Reader.errorOf?_read_bind (hvalue (by simp [shape])) fun _ => ?_
    refine Reader.errorOf?_read_bind (hvalue (by simp [shape])) fun _ => ?_
    refine Reader.errorOf?_value_bind (hvalue (by simp [shape])) fun _ => ?_
    exact Reader.errorOf?_value_bind (hvalue (by simp [shape])) fun _ => rfl
  exists_readFrom h := by
    simp only [draft, Traced.result_bind_eq_ok_iff, Traced.result_lift, Object.int_eq_ok_iff,
      Object.value_eq_ok_iff] at h
    obtain ⟨failed, hfailed, failures, hfailures, retries, hretries, _, hrun, run, hrunTimes,
      _, hwait, wait, hwaitTimes, -⟩ := h
    exact ⟨⟨failed, failures, retries, run, wait⟩,
      ⟨hfailed, hfailures, hretries, ⟨_, hrun, hrunTimes⟩, ⟨_, hwait, hwaitTimes⟩⟩⟩
  exists_draft h := ⟨_, result_draft_eq_ok_iff.mpr h, rfl⟩

end QueueStats

namespace WorkerCounts

/-- What the counts of a worker are decoded from. -/
def grammar : Grammar WorkerCounts where
  record := "WorkerCounts"
  shape := shape
  readers := [.kind "name" .string, .kind "jobs" .integer, .kind "stalled" .integer]
  rules := [.text "worker_name" WorkerCounts.worker]
  ReadFrom o c := c.ReadFrom o

/-- The counts of a worker are decoded by their grammar. -/
theorem governs : grammar.Governs (fun o => liftM (draft o)) WorkerCountsDraft.build where
  errorOf?_draft h := by
    have hvalue : ∀ {name}, name ∈ shape.names → ∃ v, Object.get? _ name = some v :=
      fun hname => h.exists_value hname
    simp only [Traced.result_lift, draft, grammar, ← Reader.of_asString, ← Reader.of_asInt]
    refine Reader.errorOf?_read_bind (hvalue (by simp [shape])) fun _ => ?_
    refine Reader.errorOf?_read_bind (hvalue (by simp [shape])) fun _ => ?_
    exact Reader.errorOf?_read_bind (hvalue (by simp [shape])) fun _ => rfl
  exists_readFrom h := by
    simp only [Traced.result_lift, draft, bind_eq_ok_iff, Object.string_eq_ok_iff,
      Object.int_eq_ok_iff] at h
    obtain ⟨worker, hworker, jobs, hjobs, stalled, hstalled, -⟩ := h
    exact ⟨⟨worker, jobs, stalled⟩, ⟨hworker, hjobs, hstalled⟩⟩
  exists_draft {o c} h := by
    refine ⟨c.fields, draft_eq_ok_iff.mpr h, ?_⟩
    refine Grammar.ensure_bind_eq_judge ?_ rfl rfl
    rfl

end WorkerCounts

namespace Throttle

/-- What a throttle is decoded from. -/
def grammar : Grammar Throttle where
  record := "Throttle"
  shape := shape
  readers := [.kind "id" .string, .kind "maximum" .integer, .kind "ttl" .integer]
  rules := [.text "id" Throttle.id]
  ReadFrom o t := t.ReadFrom o

/-- Throttles are decoded by their grammar. -/
theorem governs : grammar.Governs (fun o => liftM (draft o)) ThrottleDraft.build where
  errorOf?_draft h := by
    have hvalue : ∀ {name}, name ∈ shape.names → ∃ v, Object.get? _ name = some v :=
      fun hname => h.exists_value hname
    simp only [Traced.result_lift, draft, grammar, ← Reader.of_asString, ← Reader.of_asInt]
    refine Reader.errorOf?_read_bind (hvalue (by simp [shape])) fun _ => ?_
    refine Reader.errorOf?_read_bind (hvalue (by simp [shape])) fun _ => ?_
    exact Reader.errorOf?_read_bind (hvalue (by simp [shape])) fun _ => rfl
  exists_readFrom h := by
    simp only [Traced.result_lift, draft, bind_eq_ok_iff, Object.string_eq_ok_iff,
      Object.int_eq_ok_iff] at h
    obtain ⟨id, hid, maximum, hmaximum, ttl, httl, -⟩ := h
    exact ⟨⟨id, maximum, ttl⟩, ⟨hid, hmaximum, httl⟩⟩
  exists_draft {o t} h := by
    refine ⟨t.fields, draft_eq_ok_iff.mpr h, ?_⟩
    refine Grammar.ensure_bind_eq_judge ?_ rfl rfl
    rfl

end Throttle

namespace PriorityPattern

/-- What a priority pattern is decoded from.  Whether it is drained fairly is not declared, and a
reader finds no fault in what is not there. -/
def grammar : Grammar PriorityPattern where
  record := "QueuePriorityPattern"
  shape := shape
  readers := [.items "pattern" .string "an array of strings", .kind "fairly" .boolean]
  rules := [.texts "pattern" PriorityPattern.pattern]
  ReadFrom o p := p.ReadFrom o

variable {o : Object}

theorem errorOf?_readFairly :
    errorOf? (readFairly o) = (Reader.kind "fairly" .boolean).fault? o := by
  rw [← Reader.of_asBool]
  unfold readFairly Reader.fault?
  cases hget : o.get? "fairly" with
  | none =>
      simp [errorOf?, Reader.of, hget]
  | some v =>
      simp [Reader.of, hget]

/-- Priority patterns are decoded by their grammar. -/
theorem governs : grammar.Governs draft PriorityPatternDraft.build where
  errorOf?_draft {o} h := by
    have hpattern : ∃ v, o.get? "pattern" = some v := h.exists_value (by simp [grammar, shape])
    simp only [draft, Traced.result_bind, Traced.result_lift, Object.result_strings, grammar,
      ← Reader.of_strings]
    refine Reader.errorOf?_read_bind hpattern fun _ => ?_
    rw [List.findSome?_singleton, ← errorOf?_readFairly]
    cases readFairly o <;> rfl
  exists_readFrom h := by
    simp only [draft, Traced.result_bind_eq_ok_iff, Traced.result_lift, readFairly_eq_ok_iff,
      Object.result_strings_eq_ok_iff] at h
    obtain ⟨pattern, hpattern, fairly, hfairly, -⟩ := h
    exact ⟨⟨pattern, fairly⟩, ⟨hpattern, hfairly⟩⟩
  exists_draft {o p} h := by
    refine ⟨p.fields, result_draft_eq_ok_iff.mpr h, ?_⟩
    refine Slot.given_bind.trans ?_
    refine Grammar.ensure_bind_eq_judge ?_ rfl rfl
    rfl

end PriorityPattern

namespace FlatKind

/-- What a flat record is decoded from. -/
def grammar : (k : FlatKind) → Grammar k.record.Model
  | recurringJob => RecurringJob.grammar
  | queueCounts => QueueCounts.grammar
  | phaseStats => PhaseStats.grammar
  | queueStats => QueueStats.grammar
  | workerCounts => WorkerCounts.grammar
  | throttle => Throttle.grammar
  | priorityPattern => PriorityPattern.grammar

/-- What stands in a record for a property that is blank, or that may be absent. -/
def Fills : (k : FlatKind) → Object → k.record.Model → Prop
  | recurringJob, o, j =>
      ∃ s, o.get? "queue" = some (.str s) ∧ j.queue = if NotBlank s then some s else none
  | priorityPattern, o, p =>
      o.get? "fairly" = none ∧ p.fairly = false ∨ o.get? "fairly" = some (.bool p.fairly)
  | _, _, _ => True

variable {k : FlatKind} {o : Object} {v : Json} {a : k.record.Model}

/-- Flat records are decoded by their grammars. -/
theorem result_ofJson_eq_iff {r : Decoded k.record.Model} :
    (k.record.ofJson v).result = r ↔ k.grammar.Verdict v r := by
  cases k with
  | recurringJob =>
      exact RecurringJob.governs.result_eq_iff
  | queueCounts =>
      exact QueueCounts.governs.result_eq_iff
  | phaseStats =>
      exact PhaseStats.governs.result_eq_iff
  | queueStats =>
      exact QueueStats.governs.result_eq_iff
  | workerCounts =>
      exact WorkerCounts.governs.result_eq_iff
  | throttle =>
      exact Throttle.governs.result_eq_iff
  | priorityPattern =>
      exact PriorityPattern.governs.result_eq_iff

/-- No reader of a flat record passes on a refusal. -/
theorem direct_readers (k : FlatKind) : ∀ r ∈ k.grammar.readers, r.Direct := by
  have htimes : ∀ name, (Reader.of name fun v => (PhaseStats.ofJson v).result).Direct :=
    fun _ => Reader.direct_of fun _ _ => PhaseStats.result_ofJson_ne_invalid
  cases k <;>
    simp [grammar, RecurringJob.grammar, QueueCounts.grammar, PhaseStats.grammar,
      QueueStats.grammar, WorkerCounts.grammar, Throttle.grammar, PriorityPattern.grammar,
      Reader.direct_kind, Reader.direct_items, htimes]

/-- A flat record is refused at the place of one of its own rules. -/
theorem location_of_ofJson {i : Invalid} (h : (k.record.ofJson v).result = .error (.invalid i)) :
    i.record = k.grammar.record ∧ i.location ∈ k.grammar.rules.map Rule.location := by
  rcases (result_ofJson_eq_iff.mp h).location_mem with hplace | ⟨r, hr, w, hfault⟩
  · exact hplace
  · exact absurd hfault (direct_readers k r hr w i)

theorem fills_of_readFrom (h : k.grammar.ReadFrom o a) : k.Fills o a := by
  cases k with
  | recurringJob =>
      exact RecurringJob.ReadFrom.queue h
  | priorityPattern =>
      have hfairly := PriorityPattern.ReadFrom.fairly h
      cases hget : o.get? "fairly" with
      | none =>
          rw [hget] at hfairly
          exact .inl ⟨hget, (Json.bool.inj hfairly).symm⟩
      | some v =>
          rw [hget] at hfairly
          exact .inr (hget.trans (congrArg some hfairly))
  | queueCounts | phaseStats | queueStats | workerCounts | throttle =>
      trivial

/-- What is reported of a value that is to be a flat record is the verdict of its grammar, whatever
the value.  A refusal is that of a rule of the record, and never names the queue of a recurring job:
a queue that is blank stands for none.  A priority pattern that does not say whether it is drained
fairly is not. -/
theorem decided_by_grammar (k : FlatKind) (v : Json) :
    (∀ r, (k.record.ofJson v).result = r ↔ k.grammar.Verdict v r) ∧
      (∀ i, (k.record.ofJson v).result = .error (.invalid i) →
        i.record = k.grammar.record ∧ i.location ∈ k.grammar.rules.map Rule.location ∧
          (k = recurringJob → i.location ≠ "queue_name")) ∧
      ∀ a, (k.record.ofJson v).result = .ok a → ∃ o, v = .obj o ∧ k.Fills o a := by
  refine ⟨fun r => result_ofJson_eq_iff, fun i h => ?_, fun a h => ?_⟩
  · obtain ⟨hrecord, hplace⟩ := location_of_ofJson h
    refine ⟨hrecord, hplace, ?_⟩
    rintro rfl
    have hplaces : ∀ place ∈ RecurringJob.grammar.rules.map Rule.location,
        place ≠ "queue_name" := by decide
    exact hplaces _ hplace
  · cases result_ofJson_eq_iff.mp h with
    | accepted _ _ hread _ =>
        exact ⟨_, rfl, fills_of_readFrom hread⟩

/-- A recurring job with a blank queue, and the interval and tags that are given. -/
def blankQueueJob (interval : Int) (tags : Json) : Json :=
  .obj
    [("tags", tags), ("interval", .int interval), ("queue", .str " "), ("jid", .str "jid-1"),
      ("klass", .str "SendEmail"), ("data", .str "7"), ("state", .str "recur"),
      ("priority", .int 0), ("retries", .int 3), ("count", .int 0), ("backlog", .int 2),
      ("throttles", .arr [.str "gpu", .str "mail"])]

/-- The statistics of a queue without times of waiting, and with the histogram that is given. -/
def miscounted (histogram : Json) : Json :=
  .obj
    [("wait", .obj []), ("failed", .int (-1)), ("failures", .int 0), ("retries", .int 0),
      ("run", .obj [("count", .int 1), ("mean", .int 2), ("std", .int 0),
        ("histogram", histogram)])]

/-- Of several faults the first one is reported: the length of the interval, and not the tag; the
histogram of the first phase, and not the absence of the other times.  Without a fault every value
is in the record. -/
theorem verdict_blankQueueJob :
    (RecurringJob.ofJson (blankQueueJob 0 (.arr [.str " "]))).result =
        .error (.invalid ⟨"RecurringJob", "interval_seconds", .notPositive⟩) ∧
      "interval_seconds" ∈ recurringJob.grammar.rules.map Rule.location ∧
      recurringJob.grammar.Verdict (blankQueueJob 60 (.arr [.str "a", .str " "]))
        (.error (.invalid ⟨"RecurringJob", "tags", .blankItem⟩)) ∧
      recurringJob.grammar.Verdict (blankQueueJob 60 (.arr [.str "a", .str "b"]))
        (.ok (⟨"jid-1", "SendEmail", "7", none, "recur", 0, 3, 0, 60, 2, ["a", "b"],
          ["gpu", "mail"]⟩ : RecurringJob)) ∧
      queueStats.grammar.Verdict (miscounted (.arr [.int 1, .bool true, .null]))
        (.error (.unexpectedShape "histogram" "an array of integers" "boolean")) ∧
      queueStats.grammar.Verdict (miscounted (.arr [.int 1, .int 5]))
        (.error (.missing "count" none)) := by
  have hrefused : (RecurringJob.ofJson (blankQueueJob 0 (.arr [.str " "]))).result =
      .error (.invalid ⟨"RecurringJob", "interval_seconds", .notPositive⟩) := by decide +kernel
  have hblank : (RecurringJob.ofJson (blankQueueJob 60 (.arr [.str "a", .str " "]))).result =
      .error (.invalid ⟨"RecurringJob", "tags", .blankItem⟩) := by decide +kernel
  have haccepted : (RecurringJob.ofJson (blankQueueJob 60 (.arr [.str "a", .str "b"]))).result =
      .ok ⟨"jid-1", "SendEmail", "7", none, "recur", 0, 3, 0, 60, 2, ["a", "b"],
        ["gpu", "mail"]⟩ := by decide +kernel
  have hboolean : (QueueStats.ofJson (miscounted (.arr [.int 1, .bool true, .null]))).result =
      .error (.unexpectedShape "histogram" "an array of integers" "boolean") := by decide +kernel
  have hwait : (QueueStats.ofJson (miscounted (.arr [.int 1, .int 5]))).result =
      .error (.missing "count" none) := by decide +kernel
  obtain ⟨-, hplaces, -⟩ := decided_by_grammar recurringJob (blankQueueJob 0 (.arr [.str " "]))
  have hverdict : ∀ (k : FlatKind) v r, (k.record.ofJson v).result = r → k.grammar.Verdict v r :=
    fun k v r => ((decided_by_grammar k v).1 r).mp
  exact ⟨hrefused, (hplaces _ hrefused).2.1, hverdict recurringJob _ _ hblank,
    hverdict recurringJob _ _ haccepted, hverdict queueStats _ _ hboolean,
    hverdict queueStats _ _ hwait⟩

end FlatKind
end JobWire
