import JobWire.Job.Recurring
import JobWire.Proofs.Success

/-!
# What records accept

A record is built from its fields exactly when they are the fields of a record that satisfies its
constraints.  A job is built from events and from a failure that are records already, so its own
constraints are those of the *bare* job, which has neither.

**Results.**
* `EventDraft.build_eq_ok_iff`, `LogDraft.build_eq_ok_iff`: the events that are built.
* `FailureDraft.build_eq_ok_iff`, `JobDraft.build_eq_ok_iff`, `RecurringJobDraft.build_eq_ok_iff`:
  the other records that are built.
* `Job.valid_iff`: a job is valid if it is valid when bare, and if its events and its failure are.
* `Job.Constructed.valid`: a job that is built from accepted fields and records is valid.
-/

namespace JobWire

namespace Slot

variable {slot : Slot} {α : Type}

theorem given_eq_ok_iff {field : Option α} {a : α} : slot.given field = .ok a ↔ field = some a := by
  cases field <;> simp [given, refuse]

theorem nonNegative_eq_ok_iff {field : Option Int} {i : Int} :
    slot.nonNegative field = .ok i ↔ field = some i ∧ 0 ≤ i := by
  simp only [nonNegative, bind_eq_ok_iff, given_eq_ok_iff, ensure_eq_ok_iff]
  constructor
  · rintro ⟨_, hfield, hbound, rfl⟩
    exact ⟨hfield, hbound⟩
  · rintro ⟨hfield, hbound⟩
    exact ⟨i, hfield, hbound, rfl⟩

theorem positive_eq_ok_iff {field : Option Int} {i : Int} :
    slot.positive field = .ok i ↔ field = some i ∧ 0 < i := by
  simp only [positive, bind_eq_ok_iff, given_eq_ok_iff, ensure_eq_ok_iff]
  constructor
  · rintro ⟨_, hfield, hbound, rfl⟩
    exact ⟨hfield, hbound⟩
  · rintro ⟨hfield, hbound⟩
    exact ⟨i, hfield, hbound, rfl⟩

theorem optionalPositive_eq_ok_iff {field a : Option Int} :
    slot.optionalPositive field = .ok a ↔ field = a ∧ ∀ i ∈ a, 0 < i := by
  cases field with
  | none =>
      simp only [optionalPositive, Except.ok.injEq]
      constructor
      · rintro rfl
        exact ⟨rfl, by simp⟩
      · exact fun h => h.1
  | some i =>
      rw [optionalPositive, ensure_eq_ok_iff]
      constructor
      · rintro ⟨hbound, rfl⟩
        exact ⟨rfl, by simpa using hbound⟩
      · rintro ⟨rfl, hbound⟩
        exact ⟨hbound i rfl, rfl⟩

end Slot

section Events

/-- The given fields are those of an event of a known kind. -/
def Event.OwnFields (d : EventDraft) : Event → Prop
  | .put _ queue | .throttled _ queue => d.queue = some queue
  | .popped _ worker => d.worker = some worker
  | .failed _ group worker => d.group = some group ∧ d.worker = some worker
  | .failedRetries _ group => d.group = some group
  | .done _ | .timedOut _ => True
  | .log _ _ _ => False

theorem Event.what_eq_of_kind? {e : Event} {kind : EventKind} (h : e.kind? = some kind) :
    e.what = kind.name := by
  cases e <;> cases h <;> rfl

/-- An event of a known kind is built from the fields of a valid event of that kind. -/
theorem EventDraft.build_eq_ok_iff {kind : EventKind} {d : EventDraft} {e : Event} :
    d.build kind = .ok e ↔
      e.kind? = some kind ∧ d.what.getD kind.name = kind.name ∧ d.time = some e.time ∧
        e.OwnFields d ∧ e.Valid := by
  constructor
  · intro h
    cases kind with
    | put | popped | failedRetries | throttled =>
        simp only [build, bind_eq_ok_iff, pure_eq_ok_iff, Slot.ensure_eq_ok_iff,
          Slot.nonNegative_eq_ok_iff, Slot.given_eq_ok_iff] at h
        obtain ⟨-, ⟨hwhat, -⟩, _, ⟨htime, hbound⟩, _, hfield, rfl⟩ := h
        exact ⟨rfl, hwhat, htime, hfield, hbound⟩
    | done | timedOut =>
        simp only [build, bind_eq_ok_iff, pure_eq_ok_iff, Slot.ensure_eq_ok_iff,
          Slot.nonNegative_eq_ok_iff] at h
        obtain ⟨-, ⟨hwhat, -⟩, _, ⟨htime, hbound⟩, rfl⟩ := h
        exact ⟨rfl, hwhat, htime, trivial, hbound⟩
    | failed =>
        simp only [build, bind_eq_ok_iff, pure_eq_ok_iff, Slot.ensure_eq_ok_iff,
          Slot.nonNegative_eq_ok_iff, Slot.given_eq_ok_iff] at h
        obtain ⟨-, ⟨hwhat, -⟩, _, ⟨htime, hbound⟩, _, hgroup, _, hworker, rfl⟩ := h
        exact ⟨rfl, hwhat, htime, ⟨hgroup, hworker⟩, hbound⟩
  · rintro ⟨hkind, hwhat, htime, hfields, hvalid⟩
    cases e with
    | put _ _ | popped _ _ | failedRetries _ _ | throttled _ _ =>
        cases hkind
        simp only [build, bind_eq_ok_iff, pure_eq_ok_iff, Slot.ensure_eq_ok_iff,
          Slot.nonNegative_eq_ok_iff, Slot.given_eq_ok_iff]
        exact ⟨(), ⟨hwhat, trivial⟩, _, ⟨htime, hvalid⟩, _, hfields, rfl⟩
    | done _ | timedOut _ =>
        cases hkind
        simp only [build, bind_eq_ok_iff, pure_eq_ok_iff, Slot.ensure_eq_ok_iff,
          Slot.nonNegative_eq_ok_iff]
        exact ⟨(), ⟨hwhat, trivial⟩, _, ⟨htime, hvalid⟩, rfl⟩
    | failed _ _ _ =>
        cases hkind
        simp only [build, bind_eq_ok_iff, pure_eq_ok_iff, Slot.ensure_eq_ok_iff,
          Slot.nonNegative_eq_ok_iff, Slot.given_eq_ok_iff]
        exact ⟨(), ⟨hwhat, trivial⟩, _, ⟨htime, hvalid⟩, _, hfields.1, _, hfields.2, rfl⟩
    | log _ _ _ =>
        cases hkind

theorem LogDraft.checkWhat_eq_ok_iff {field : Option String} {what : String} :
    checkWhat field = .ok what ↔
      field = some what ∧ NotBlank what ∧ EventKind.ofName? what = none := by
  simp only [checkWhat, bind_eq_ok_iff, Slot.text_eq_ok_iff, Slot.ensure_eq_ok_iff]
  constructor
  · rintro ⟨_, ⟨hfield, hblank⟩, hunknown, rfl⟩
    exact ⟨hfield, hblank, hunknown⟩
  · rintro ⟨hfield, hblank, hunknown⟩
    exact ⟨what, ⟨hfield, hblank⟩, hunknown, rfl⟩

theorem LogDraft.checkExtras_eq_ok_iff {extras kept : List (String × String)} :
    checkExtras extras = .ok kept ↔ extras = kept ∧ Event.ValidExtras kept := by
  have hreserved : Event.reservedNames.filter (extras.map Prod.fst).contains = [] ↔
      ∀ n ∈ Event.reservedNames, n ∉ extras.map Prod.fst := by
    simp only [List.filter_eq_nil_iff, List.contains_iff_mem]
  simp only [checkExtras, bind_eq_ok_iff, Slot.ensure_eq_ok_iff, hreserved]
  constructor
  · rintro ⟨-, ⟨hnames, -⟩, -, ⟨hnodup, -⟩, htexts, rfl⟩
    exact ⟨rfl, hnames, hnodup, htexts⟩
  · rintro ⟨rfl, hnames, hnodup, htexts⟩
    exact ⟨(), ⟨hnames, trivial⟩, (), ⟨hnodup, trivial⟩, htexts, rfl⟩

/-- A log event is built from the fields of a valid log event. -/
theorem LogDraft.build_eq_ok_iff {d : LogDraft} {e : Event} :
    d.build = .ok e ↔
      ∃ what time extras, d.what = some what ∧ d.time = some time ∧
        d.givenExtras = .ok extras ∧ e = .log what time extras ∧ e.Valid := by
  simp only [build, bind_eq_ok_iff, pure_eq_ok_iff, checkWhat_eq_ok_iff, checkExtras_eq_ok_iff,
    Slot.nonNegative_eq_ok_iff]
  constructor
  · rintro ⟨_, hgiven, _, ⟨hwhat, hname⟩, _, ⟨htime, hbound⟩, _, ⟨rfl, hextras⟩, rfl⟩
    exact ⟨_, _, _, hwhat, htime, hgiven, rfl, hname, hbound, hextras⟩
  · rintro ⟨what, time, extras, hwhat, htime, hgiven, rfl, hname, hbound, hextras⟩
    exact ⟨extras, hgiven, what, ⟨hwhat, hname⟩, time, ⟨htime, hbound⟩, extras, ⟨rfl, hextras⟩,
      rfl⟩

end Events

section Records

/-- The fields of a failure. -/
def Failure.fields (f : Failure) : FailureDraft :=
  { group := some f.group
    message := some f.message
    time := some f.time
    worker := some f.worker }

/-- A failure is built from the fields of a valid failure. -/
theorem FailureDraft.build_eq_ok_iff {d : FailureDraft} {f : Failure} :
    d.build = .ok f ↔ d = f.fields ∧ f.Valid := by
  obtain ⟨group, message, time, worker⟩ := d
  simp only [build, bind_eq_ok_iff, pure_eq_ok_iff, Slot.text_eq_ok_iff, Slot.positive_eq_ok_iff]
  constructor
  · rintro ⟨_, ⟨rfl, hgroup⟩, _, ⟨rfl, hmessage⟩, _, ⟨rfl, htime⟩, _, ⟨rfl, hworker⟩, rfl⟩
    exact ⟨rfl, hgroup, hmessage, htime, hworker⟩
  · rintro ⟨hfields, hgroup, hmessage, htime, hworker⟩
    cases hfields
    exact ⟨_, ⟨rfl, hgroup⟩, _, ⟨rfl, hmessage⟩, _, ⟨rfl, htime⟩, _, ⟨rfl, hworker⟩, rfl⟩

namespace Job

/-- The fields of a job. -/
def fields (j : Job) : JobDraft :=
  { jid := some j.jid
    className := some j.className
    data := some j.data
    queue := some j.queue
    worker := some j.worker
    state := some j.state
    priority := some j.priority
    remaining := some j.remaining
    retries := some j.retries
    expires := j.expires
    tracked := j.tracked
    spawnedFrom := j.spawnedFrom
    dependencies := j.dependencies
    dependents := j.dependents
    tags := j.tags
    throttles := j.throttles
    history := j.history
    failure := j.failure }

/-- The job without its history and its failure. -/
def bare (j : Job) : Job :=
  { j with history := [], failure := none }

variable {j : Job}

theorem remainingViolation?_eq_none_iff :
    j.remainingViolation? = none ↔ -1 ≤ j.remaining ∧ j.remaining ≤ j.retries := by
  unfold remainingViolation?
  split_ifs <;> simp <;> omega

/-- A job is valid if it is valid when bare, and if its events and its failure are. -/
theorem valid_iff :
    j.Valid ↔ j.bare.Valid ∧ (∀ e ∈ j.history, e.Valid) ∧ ∀ f ∈ j.failure, f.Valid := by
  constructor
  · intro h
    exact ⟨{ h with history := by simp [bare], failure := by simp [bare] }, h.history, h.failure⟩
  · rintro ⟨hbare, hhistory, hfailure⟩
    exact { hbare with history := hhistory, failure := hfailure }

end Job

/-- A job is built from the fields of a job that is valid when bare. -/
theorem JobDraft.build_eq_ok_iff {d : JobDraft} {j : Job} :
    d.build = .ok j ↔ d = j.fields ∧ j.bare.Valid := by
  simp only [build, bind_eq_ok_iff, Slot.text_eq_ok_iff, Slot.given_eq_ok_iff,
    Slot.optionalText_eq_ok_iff, Slot.nonNegative_eq_ok_iff, Slot.optionalPositive_eq_ok_iff,
    Slot.texts_eq_ok_iff]
  constructor
  · rintro ⟨_, ⟨hjid, jid⟩, _, ⟨hclass, className⟩, _, ⟨hdata, data⟩, _, hqueue, _, ⟨queue, rfl⟩,
      _, hworker, _, ⟨worker, rfl⟩, _, ⟨hstate, state⟩, _, ⟨hpriority, priority⟩, _, hremaining,
      _, ⟨hretries, retries⟩, _, ⟨rfl, expires⟩, _, ⟨spawnedFrom, rfl⟩, _, ⟨dependencies, rfl⟩,
      _, ⟨dependents, rfl⟩, _, ⟨tags, rfl⟩, _, ⟨throttles, rfl⟩, hrule⟩
    split at hrule
    · next hnone =>
        cases hrule
        have remaining := Job.remainingViolation?_eq_none_iff.mp hnone
        have history : ∀ e ∈ ([] : List Event), e.Valid := by simp
        have failure : ∀ f ∈ (none : Option Failure), f.Valid := by simp
        refine ⟨?_, ⟨jid, className, data, queue, worker, state, priority, retries, expires,
          spawnedFrom, dependencies, dependents, tags, throttles, history, failure, remaining⟩⟩
        obtain ⟨_, _, _, _, _, _, _, _, _, _, _, _, _, _, _, _, _, _⟩ := d
        simp only at hjid hclass hdata hqueue hworker hstate hpriority hremaining hretries
        subst_vars
        rfl
    · cases hrule
  · rintro ⟨rfl, h⟩
    refine ⟨_, ⟨rfl, h.jid⟩, _, ⟨rfl, h.className⟩, _, ⟨rfl, h.data⟩, _, rfl, _, ⟨h.queue, rfl⟩,
      _, rfl, _, ⟨h.worker, rfl⟩, _, ⟨rfl, h.state⟩, _, ⟨rfl, h.priority⟩, _, rfl,
      _, ⟨rfl, h.retries⟩, _, ⟨rfl, h.expires⟩, _, ⟨h.spawnedFrom, rfl⟩, _, ⟨h.dependencies, rfl⟩,
      _, ⟨h.dependents, rfl⟩, _, ⟨h.tags, rfl⟩, _, ⟨h.throttles, rfl⟩, ?_⟩
    have hrule : j.remainingViolation? = none :=
      Job.remainingViolation?_eq_none_iff.mpr h.remaining
    split
    · rfl
    · next v hsome =>
        have hnone : some v = none := hsome.symm.trans hrule
        cases hnone

/-- The fields of a recurring job. -/
def RecurringJob.fields (j : RecurringJob) : RecurringJobDraft :=
  { jid := some j.jid
    className := some j.className
    data := some j.data
    queue := some j.queue
    state := some j.state
    priority := some j.priority
    retries := some j.retries
    count := some j.count
    intervalSeconds := some j.intervalSeconds
    maximumBacklog := some j.maximumBacklog
    tags := j.tags
    throttles := j.throttles }

/-- A recurring job is built from the fields of a valid recurring job. -/
theorem RecurringJobDraft.build_eq_ok_iff {d : RecurringJobDraft} {j : RecurringJob} :
    d.build = .ok j ↔ d = j.fields ∧ j.Valid := by
  simp only [build, bind_eq_ok_iff, pure_eq_ok_iff, Slot.text_eq_ok_iff, Slot.given_eq_ok_iff,
    Slot.optionalText_eq_ok_iff, Slot.nonNegative_eq_ok_iff, Slot.positive_eq_ok_iff,
    Slot.texts_eq_ok_iff]
  constructor
  · rintro ⟨_, ⟨hjid, jid⟩, _, ⟨hclass, className⟩, _, ⟨hdata, data⟩, _, hqueue, _, ⟨queue, rfl⟩,
      _, ⟨hstate, state⟩, _, ⟨hpriority, priority⟩, _, ⟨hretries, retries⟩, _, ⟨hcount, count⟩,
      _, ⟨hinterval, intervalSeconds⟩, _, ⟨hbacklog, maximumBacklog⟩, _, ⟨tags, rfl⟩,
      _, ⟨throttles, rfl⟩, rfl⟩
    refine ⟨?_, ⟨jid, className, data, queue, state, priority, retries, count, intervalSeconds,
      maximumBacklog, tags, throttles⟩⟩
    obtain ⟨_, _, _, _, _, _, _, _, _, _, _, _⟩ := d
    simp only at hjid hclass hdata hqueue hstate hpriority hretries hcount hinterval hbacklog
    subst_vars
    rfl
  · rintro ⟨rfl, h⟩
    exact ⟨_, ⟨rfl, h.jid⟩, _, ⟨rfl, h.className⟩, _, ⟨rfl, h.data⟩, _, rfl, _, ⟨h.queue, rfl⟩,
      _, ⟨rfl, h.state⟩, _, ⟨rfl, h.priority⟩, _, ⟨rfl, h.retries⟩, _, ⟨rfl, h.count⟩,
      _, ⟨rfl, h.intervalSeconds⟩, _, ⟨rfl, h.maximumBacklog⟩, _, ⟨h.tags, rfl⟩,
      _, ⟨h.throttles, rfl⟩, rfl⟩

end Records

section Constructed

/-- The event is of a known kind, or a log event whose further properties were given as an object of
values. -/
inductive Event.Constructed : Event → Prop
  | known {kind : EventKind} {d : EventDraft} {e : Event} : d.build kind = .ok e → Constructed e
  | log {d : LogDraft} {members : Object} {e : Event} :
      d.data = some (.obj members) →
      (Json.obj members).Distinct →
      d.build = .ok e →
      Constructed e

theorem Event.Constructed.valid {e : Event} (h : e.Constructed) : e.Valid := by
  cases h with
  | known hbuild =>
      exact (EventDraft.build_eq_ok_iff.mp hbuild).2.2.2.2
  | log _ _ hbuild =>
      obtain ⟨_, _, _, -, -, -, -, hvalid⟩ := LogDraft.build_eq_ok_iff.mp hbuild
      exact hvalid

/-- The job is built from fields that were accepted, with constructed events and a failure that was
accepted. -/
structure Job.Constructed (j : Job) : Prop where
  fields : ∃ d : JobDraft, d.build = .ok j
  history : ∀ e ∈ j.history, e.Constructed
  failure : ∀ f ∈ j.failure, ∃ d : FailureDraft, d.build = .ok f

theorem Job.Constructed.valid {j : Job} (h : j.Constructed) : j.Valid := by
  obtain ⟨d, hbuild⟩ := h.fields
  refine Job.valid_iff.mpr ⟨(JobDraft.build_eq_ok_iff.mp hbuild).2, ?_, ?_⟩
  · exact fun e he => (h.history e he).valid
  · intro f hf
    obtain ⟨_, hbuilt⟩ := h.failure f hf
    exact (FailureDraft.build_eq_ok_iff.mp hbuilt).2

end Constructed

end JobWire
