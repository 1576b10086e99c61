import JobWire.Proofs.Construction
import JobWire.Queue.Counts
import JobWire.Queue.PriorityPattern
import JobWire.Queue.Stats
import JobWire.Throttle
import JobWire.Worker.Counts

/-!
# What the records of queues accept

The records of queues, workers and throttles are built from their fields as jobs are: exactly when
the fields are those of a record that satisfies its constraints.  Only names and patterns have
constraints; counts and times may be any integers.

**Results.**
* `QueueCountsDraft.build_eq_ok_iff`, `PhaseStatsDraft.build_eq_ok_iff`,
  `QueueStatsDraft.build_eq_ok_iff`, `WorkerCountsDraft.build_eq_ok_iff`,
  `ThrottleDraft.build_eq_ok_iff`, `PriorityPatternDraft.build_eq_ok_iff`: the records that are
  built.
-/

namespace JobWire

/-- The fields of the counts of a queue. -/
def QueueCounts.fields (c : QueueCounts) : QueueCountsDraft :=
  { queue := some c.queue
    paused := some c.paused
    depends := some c.depends
    recurring := some c.recurring
    running := some c.running
    scheduled := some c.scheduled
    stalled := some c.stalled
    throttled := some c.throttled
    waiting := some c.waiting }

theorem QueueCounts.fields_injective : Function.Injective fields := by
  rintro ⟨⟩ ⟨⟩ h
  cases h
  rfl

theorem QueueCountsDraft.build_eq_ok_iff {d : QueueCountsDraft} {c : QueueCounts} :
    d.build = .ok c ↔ d = c.fields ∧ c.Valid := by
  obtain ⟨queue, paused, depends, recurring, running, scheduled, stalled, throttled, waiting⟩ := d
  simp only [build, bind_eq_ok_iff, pure_eq_ok_iff, Slot.text_eq_ok_iff, Slot.given_eq_ok_iff]
  constructor
  · rintro ⟨_, ⟨rfl, hqueue⟩, _, rfl, _, rfl, _, rfl, _, rfl, _, rfl, _, rfl, _, rfl, _, rfl, rfl⟩
    exact ⟨rfl, hqueue⟩
  · rintro ⟨hfields, hqueue⟩
    cases hfields
    exact ⟨_, ⟨rfl, hqueue⟩, _, rfl, _, rfl, _, rfl, _, rfl, _, rfl, _, rfl, _, rfl, _, rfl, rfl⟩

/-- The fields of the times of a phase. -/
def PhaseStats.fields (s : PhaseStats) : PhaseStatsDraft :=
  { count := some s.count
    mean := some s.mean
    standardDeviation := some s.standardDeviation
    histogram := s.histogram }

theorem PhaseStats.fields_injective : Function.Injective fields := by
  rintro ⟨⟩ ⟨⟩ h
  cases h
  rfl

theorem PhaseStatsDraft.build_eq_ok_iff {d : PhaseStatsDraft} {s : PhaseStats} :
    d.build = .ok s ↔ d = s.fields := by
  obtain ⟨count, mean, standardDeviation, histogram⟩ := d
  simp only [build, bind_eq_ok_iff, pure_eq_ok_iff, Slot.given_eq_ok_iff]
  constructor
  · rintro ⟨_, rfl, _, rfl, _, rfl, rfl⟩
    rfl
  · intro hfields
    cases hfields
    exact ⟨_, rfl, _, rfl, _, rfl, rfl⟩

/-- The fields of the statistics of a queue. -/
def QueueStats.fields (s : QueueStats) : QueueStatsDraft :=
  { failed := some s.failed
    failures := some s.failures
    retries := some s.retries
    run := some s.run
    wait := some s.wait }

theorem QueueStats.fields_injective : Function.Injective fields := by
  rintro ⟨⟩ ⟨⟩ h
  cases h
  rfl

theorem QueueStatsDraft.build_eq_ok_iff {d : QueueStatsDraft} {s : QueueStats} :
    d.build = .ok s ↔ d = s.fields := by
  obtain ⟨failed, failures, retries, run, wait⟩ := d
  simp only [build, bind_eq_ok_iff, pure_eq_ok_iff, Slot.given_eq_ok_iff]
  constructor
  · rintro ⟨_, rfl, _, rfl, _, rfl, _, rfl, _, rfl, rfl⟩
    rfl
  · intro hfields
    cases hfields
    exact ⟨_, rfl, _, rfl, _, rfl, _, rfl, _, rfl, rfl⟩

/-- The fields of the counts of a worker. -/
def WorkerCounts.fields (c : WorkerCounts) : WorkerCountsDraft :=
  { worker := some c.worker
    jobs := some c.jobs
    stalled := some c.stalled }

theorem WorkerCounts.fields_injective : Function.Injective fields := by
  rintro ⟨⟩ ⟨⟩ h
  cases h
  rfl

theorem WorkerCountsDraft.build_eq_ok_iff {d : WorkerCountsDraft} {c : WorkerCounts} :
    d.build = .ok c ↔ d = c.fields ∧ c.Valid := by
  obtain ⟨worker, jobs, stalled⟩ := d
  simp only [build, bind_eq_ok_iff, pure_eq_ok_iff, Slot.text_eq_ok_iff, Slot.given_eq_ok_iff]
  constructor
  · rintro ⟨_, ⟨rfl, hworker⟩, _, rfl, _, rfl, rfl⟩
    exact ⟨rfl, hworker⟩
  · rintro ⟨hfields, hworker⟩
    cases hfields
    exact ⟨_, ⟨rfl, hworker⟩, _, rfl, _, rfl, rfl⟩

/-- The fields of a throttle. -/
def Throttle.fields (t : Throttle) : ThrottleDraft :=
  { id := some t.id
    maximum := some t.maximum
    ttl := some t.ttl }

theorem Throttle.fields_injective : Function.Injective fields := by
  rintro ⟨⟩ ⟨⟩ h
  cases h
  rfl

theorem ThrottleDraft.build_eq_ok_iff {d : ThrottleDraft} {t : Throttle} :
    d.build = .ok t ↔ d = t.fields ∧ t.Valid := by
  obtain ⟨id, maximum, ttl⟩ := d
  simp only [build, bind_eq_ok_iff, pure_eq_ok_iff, Slot.text_eq_ok_iff, Slot.given_eq_ok_iff]
  constructor
  · rintro ⟨_, ⟨rfl, hid⟩, _, rfl, _, rfl, rfl⟩
    exact ⟨rfl, hid⟩
  · rintro ⟨hfields, hid⟩
    cases hfields
    exact ⟨_, ⟨rfl, hid⟩, _, rfl, _, rfl, rfl⟩

/-- The fields of a priority pattern. -/
def PriorityPattern.fields (p : PriorityPattern) : PriorityPatternDraft :=
  { pattern := some p.pattern
    fairly := p.fairly }

theorem PriorityPattern.fields_injective : Function.Injective fields := by
  rintro ⟨⟩ ⟨⟩ h
  cases h
  rfl

theorem PriorityPatternDraft.build_eq_ok_iff {d : PriorityPatternDraft} {p : PriorityPattern} :
    d.build = .ok p ↔ d = p.fields ∧ p.Valid := by
  obtain ⟨pattern, fairly⟩ := d
  simp only [build, bind_eq_ok_iff, pure_eq_ok_iff, Slot.given_eq_ok_iff, Slot.texts_eq_ok_iff]
  constructor
  · rintro ⟨_, rfl, _, ⟨hpattern, rfl⟩, rfl⟩
    exact ⟨rfl, hpattern⟩
  · rintro ⟨hfields, hpattern⟩
    cases hfields
    exact ⟨_, rfl, _, ⟨hpattern, rfl⟩, rfl⟩

end JobWire
