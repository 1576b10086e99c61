import JobWire.Proofs.Property
import JobWire.Proofs.Queue.Construction

/-!
# The objects that the records of queues are read from

A record of a queue, of a worker or of a throttle is read from an object exactly when each of its
fields is read from the property that stands for it, and its constraints hold.  The properties do
not all have the names of the fields, and many of them have the same type, so each pairing is
written down once for reading; what is written is then read back by the same pairing.

**Results.**
* `Shape.result_record_eq_ok_iff`: when a record is read, by its shape and its fields.
* `QueueCounts.result_ofJson_eq_ok_iff`, `PhaseStats.result_ofJson_eq_ok_iff`,
  `QueueStats.result_ofJson_eq_ok_iff`, `WorkerCounts.result_ofJson_eq_ok_iff`,
  `Throttle.result_ofJson_eq_ok_iff`, `PriorityPattern.result_ofJson_eq_ok_iff`: the same for each
  record.
* `QueueCounts.result_ofJson_toJson` and its like: each record is read back from its own value.
-/

namespace JobWire

/-- A record is read from an object if its fields are, and if they are accepted. -/
theorem Shape.result_record_eq_ok_iff {α δ : Type} {s : Shape} {draft : Object → Decode δ}
    {build : δ → Built α} {a : α} {fields : δ} {ReadFrom : Object → Prop} {Valid : Prop}
    (hbuild : ∀ d, build d = .ok a ↔ d = fields ∧ Valid)
    (hdraft : ∀ o, (draft o).result = .ok fields ↔ ReadFrom o)
    (hfits : ∀ o, ReadFrom o → s.Fits o) {v : Json} :
    (do
      let o ← s.read v
      let d ← draft o
      build d : Decode α).result = .ok a ↔ ∃ o, v = .obj o ∧ ReadFrom o ∧ Valid := by
  simp only [Traced.result_bind_eq_ok_iff, result_read_eq_ok_iff,
    Traced.result_liftBuilt_eq_ok_iff, hbuild]
  constructor
  · rintro ⟨o, ⟨rfl, -⟩, _, hread, rfl, hvalid⟩
    exact ⟨o, rfl, (hdraft o).mp hread, hvalid⟩
  · rintro ⟨o, rfl, hread, hvalid⟩
    exact ⟨o, ⟨rfl, hfits o hread⟩, fields, (hdraft o).mpr hread, rfl, hvalid⟩

namespace QueueCounts

/-- The object has the properties that the counts of a queue are read from. -/
structure ReadFrom (o : Object) (c : QueueCounts) : Prop where
  queue : o.get? "name" = some (.str c.queue)
  paused : o.get? "paused" = some (.bool c.paused)
  depends : o.get? "depends" = some (.int c.depends)
  recurring : o.get? "recurring" = some (.int c.recurring)
  running : o.get? "running" = some (.int c.running)
  scheduled : o.get? "scheduled" = some (.int c.scheduled)
  stalled : o.get? "stalled" = some (.int c.stalled)
  throttled : o.get? "throttled" = some (.int c.throttled)
  waiting : o.get? "waiting" = some (.int c.waiting)

variable {o : Object} {c : QueueCounts} {v : Json}

theorem draft_eq_ok_iff : draft o = .ok c.fields ↔ c.ReadFrom o := by
  simp only [draft, bind_eq_ok_iff, pure_eq_ok_iff, Object.string_eq_ok_iff,
    Object.bool_eq_ok_iff, Object.int_eq_ok_iff]
  constructor
  · rintro ⟨_, hqueue, _, hpaused, _, hdepends, _, hrecurring, _, hrunning, _, hscheduled,
      _, hstalled, _, hthrottled, _, hwaiting, hfields⟩
    cases hfields
    exact ⟨hqueue, hpaused, hdepends, hrecurring, hrunning, hscheduled, hstalled, hthrottled,
      hwaiting⟩
  · intro h
    exact ⟨_, h.queue, _, h.paused, _, h.depends, _, h.recurring, _, h.running, _, h.scheduled,
      _, h.stalled, _, h.throttled, _, h.waiting, rfl⟩

theorem ReadFrom.fits (h : c.ReadFrom o) : shape.Fits o := by
  simp only [Shape.Fits, shape, List.forall_mem_cons]
  exact ⟨⟨_, h.depends, by simp⟩, ⟨_, h.queue, by simp⟩, ⟨_, h.paused, by simp⟩,
    ⟨_, h.recurring, by simp⟩, ⟨_, h.running, by simp⟩, ⟨_, h.scheduled, by simp⟩,
    ⟨_, h.stalled, by simp⟩, ⟨_, h.throttled, by simp⟩, ⟨_, h.waiting, by simp⟩, by simp⟩

theorem result_ofJson_eq_ok_iff :
    (ofJson v).result = .ok c ↔ ∃ o, v = .obj o ∧ c.ReadFrom o ∧ c.Valid :=
  Shape.result_record_eq_ok_iff (fun _ => QueueCountsDraft.build_eq_ok_iff)
    (fun _ => draft_eq_ok_iff) fun _ => ReadFrom.fits

/-- Valid counts of a queue are read back from their own value. -/
theorem result_ofJson_toJson (h : c.Valid) : (ofJson c.toJson).result = .ok c :=
  result_ofJson_eq_ok_iff.mpr ⟨_, rfl, ⟨rfl, rfl, rfl, rfl, rfl, rfl, rfl, rfl, rfl⟩, h⟩

end QueueCounts

namespace PhaseStats

/-- The object has the properties that the times of a phase are read from. -/
structure ReadFrom (o : Object) (s : PhaseStats) : Prop where
  count : o.get? "count" = some (.int s.count)
  mean : o.get? "mean" = some (.int s.mean)
  standardDeviation : o.get? "std" = some (.int s.standardDeviation)
  histogram : o.HasValues "histogram" .int s.histogram

variable {o : Object} {s : PhaseStats} {v : Json}

theorem result_draft_eq_ok_iff : (draft o).result = .ok s.fields ↔ s.ReadFrom o := by
  simp only [draft, Traced.result_bind_eq_ok_iff, Traced.result_lift,
    Traced.result_pure_eq_ok_iff, Object.int_eq_ok_iff, Object.result_ints_eq_ok_iff]
  constructor
  · rintro ⟨_, hcount, _, hmean, _, hdeviation, _, hhistogram, hfields⟩
    cases hfields
    exact ⟨hcount, hmean, hdeviation, hhistogram⟩
  · intro h
    exact ⟨_, h.count, _, h.mean, _, h.standardDeviation, _, h.histogram, rfl⟩

theorem ReadFrom.fits (h : s.ReadFrom o) : shape.Fits o := by
  simp only [Shape.Fits, shape, List.forall_mem_cons]
  exact ⟨⟨_, h.count, by simp⟩, h.histogram.fits, ⟨_, h.mean, by simp⟩,
    ⟨_, h.standardDeviation, by simp⟩, by simp⟩

theorem result_ofJson_eq_ok_iff :
    (ofJson v).result = .ok s ↔ ∃ o, v = .obj o ∧ s.ReadFrom o := by
  have hbuild : ∀ d : PhaseStatsDraft, d.build = .ok s ↔ d = s.fields ∧ True :=
    fun _ => PhaseStatsDraft.build_eq_ok_iff.trans (and_true _).symm.to_iff
  have hread : (ofJson v).result = .ok s ↔ ∃ o, v = .obj o ∧ s.ReadFrom o ∧ True :=
    Shape.result_record_eq_ok_iff hbuild (fun _ => result_draft_eq_ok_iff) fun _ => ReadFrom.fits
  simpa only [and_true] using hread

theorem ne_null_of_ofJson (h : (ofJson v).result = .ok s) : v ≠ .null := by
  obtain ⟨o, rfl, -⟩ := result_ofJson_eq_ok_iff.mp h
  nofun

/-- The times of a phase are read back from their own value. -/
theorem result_ofJson_toJson (s : PhaseStats) : (ofJson s.toJson).result = .ok s :=
  result_ofJson_eq_ok_iff.mpr ⟨_, rfl, rfl, rfl, rfl, .inl rfl⟩

end PhaseStats

namespace QueueStats

/-- The object has the properties that the statistics of a queue are read from. -/
structure ReadFrom (o : Object) (s : QueueStats) : Prop where
  failed : o.get? "failed" = some (.int s.failed)
  failures : o.get? "failures" = some (.int s.failures)
  retries : o.get? "retries" = some (.int s.retries)
  run : ∃ v, o.get? "run" = some v ∧ (PhaseStats.ofJson v).result = .ok s.run
  wait : ∃ v, o.get? "wait" = some v ∧ (PhaseStats.ofJson v).result = .ok s.wait

variable {o : Object} {s : QueueStats} {v : Json}

theorem result_draft_eq_ok_iff : (draft o).result = .ok s.fields ↔ s.ReadFrom o := by
  simp only [draft, Traced.result_bind_eq_ok_iff, Traced.result_lift,
    Traced.result_pure_eq_ok_iff, Object.int_eq_ok_iff, Object.value_eq_ok_iff]
  constructor
  · rintro ⟨_, hfailed, _, hfailures, _, hretries, _, hrun, _, hrunTimes, _, hwait, _, hwaitTimes,
      hfields⟩
    cases hfields
    exact ⟨hfailed, hfailures, hretries, ⟨_, hrun, hrunTimes⟩, ⟨_, hwait, hwaitTimes⟩⟩
  · intro h
    obtain ⟨_, hrun, hrunTimes⟩ := h.run
    obtain ⟨_, hwait, hwaitTimes⟩ := h.wait
    exact ⟨_, h.failed, _, h.failures, _, h.retries, _, hrun, _, hrunTimes, _, hwait,
      _, hwaitTimes, rfl⟩

theorem ReadFrom.fits (h : s.ReadFrom o) : shape.Fits o := by
  obtain ⟨_, hrun, hrunTimes⟩ := h.run
  obtain ⟨_, hwait, hwaitTimes⟩ := h.wait
  simp only [Shape.Fits, shape, List.forall_mem_cons]
  exact ⟨⟨_, h.failed, by simp⟩, ⟨_, h.failures, by simp⟩, ⟨_, h.retries, by simp⟩,
    ⟨_, hrun, fun hnull => absurd hnull (PhaseStats.ne_null_of_ofJson hrunTimes)⟩,
    ⟨_, hwait, fun hnull => absurd hnull (PhaseStats.ne_null_of_ofJson hwaitTimes)⟩, by simp⟩

theorem result_ofJson_eq_ok_iff :
    (ofJson v).result = .ok s ↔ ∃ o, v = .obj o ∧ s.ReadFrom o := by
  have hbuild : ∀ d : QueueStatsDraft, d.build = .ok s ↔ d = s.fields ∧ True :=
    fun _ => QueueStatsDraft.build_eq_ok_iff.trans (and_true _).symm.to_iff
  have hread : (ofJson v).result = .ok s ↔ ∃ o, v = .obj o ∧ s.ReadFrom o ∧ True :=
    Shape.result_record_eq_ok_iff hbuild (fun _ => result_draft_eq_ok_iff) fun _ => ReadFrom.fits
  simpa only [and_true] using hread

/-- The statistics of a queue are read back from their own value. -/
theorem result_ofJson_toJson (s : QueueStats) : (ofJson s.toJson).result = .ok s :=
  result_ofJson_eq_ok_iff.mpr ⟨_, rfl, rfl, rfl, rfl,
    ⟨_, rfl, PhaseStats.result_ofJson_toJson _⟩, ⟨_, rfl, PhaseStats.result_ofJson_toJson _⟩⟩

end QueueStats

namespace WorkerCounts

/-- The object has the properties that the counts of a worker are read from. -/
structure ReadFrom (o : Object) (c : WorkerCounts) : Prop where
  worker : o.get? "name" = some (.str c.worker)
  jobs : o.get? "jobs" = some (.int c.jobs)
  stalled : o.get? "stalled" = some (.int c.stalled)

variable {o : Object} {c : WorkerCounts} {v : Json}

theorem draft_eq_ok_iff : draft o = .ok c.fields ↔ c.ReadFrom o := by
  simp only [draft, bind_eq_ok_iff, pure_eq_ok_iff, Object.string_eq_ok_iff,
    Object.int_eq_ok_iff]
  constructor
  · rintro ⟨_, hworker, _, hjobs, _, hstalled, hfields⟩
    cases hfields
    exact ⟨hworker, hjobs, hstalled⟩
  · intro h
    exact ⟨_, h.worker, _, h.jobs, _, h.stalled, rfl⟩

theorem ReadFrom.fits (h : c.ReadFrom o) : shape.Fits o := by
  simp only [Shape.Fits, shape, List.forall_mem_cons]
  exact ⟨⟨_, h.jobs, by simp⟩, ⟨_, h.worker, by simp⟩, ⟨_, h.stalled, by simp⟩, by simp⟩

theorem result_ofJson_eq_ok_iff :
    (ofJson v).result = .ok c ↔ ∃ o, v = .obj o ∧ c.ReadFrom o ∧ c.Valid :=
  Shape.result_record_eq_ok_iff (fun _ => WorkerCountsDraft.build_eq_ok_iff)
    (fun _ => draft_eq_ok_iff) fun _ => ReadFrom.fits

/-- Valid counts of a worker are read back from their own value. -/
theorem result_ofJson_toJson (h : c.Valid) : (ofJson c.toJson).result = .ok c :=
  result_ofJson_eq_ok_iff.mpr ⟨_, rfl, ⟨rfl, rfl, rfl⟩, h⟩

end WorkerCounts

namespace Throttle

/-- The object has the properties that a throttle is read from. -/
structure ReadFrom (o : Object) (t : Throttle) : Prop where
  id : o.get? "id" = some (.str t.id)
  maximum : o.get? "maximum" = some (.int t.maximum)
  ttl : o.get? "ttl" = some (.int t.ttl)

variable {o : Object} {t : Throttle} {v : Json}

theorem draft_eq_ok_iff : draft o = .ok t.fields ↔ t.ReadFrom o := by
  simp only [draft, bind_eq_ok_iff, pure_eq_ok_iff, Object.string_eq_ok_iff,
    Object.int_eq_ok_iff]
  constructor
  · rintro ⟨_, hid, _, hmaximum, _, httl, hfields⟩
    cases hfields
    exact ⟨hid, hmaximum, httl⟩
  · intro h
    exact ⟨_, h.id, _, h.maximum, _, h.ttl, rfl⟩

theorem ReadFrom.fits (h : t.ReadFrom o) : shape.Fits o := by
  simp only [Shape.Fits, shape, List.forall_mem_cons]
  exact ⟨⟨_, h.id, by simp⟩, ⟨_, h.maximum, by simp⟩, ⟨_, h.ttl, by simp⟩, by simp⟩

theorem result_ofJson_eq_ok_iff :
    (ofJson v).result = .ok t ↔ ∃ o, v = .obj o ∧ t.ReadFrom o ∧ t.Valid :=
  Shape.result_record_eq_ok_iff (fun _ => ThrottleDraft.build_eq_ok_iff)
    (fun _ => draft_eq_ok_iff) fun _ => ReadFrom.fits

/-- A valid throttle is read back from its own value. -/
theorem result_ofJson_toJson (h : t.Valid) : (ofJson t.toJson).result = .ok t :=
  result_ofJson_eq_ok_iff.mpr ⟨_, rfl, ⟨rfl, rfl, rfl⟩, h⟩

end Throttle

namespace PriorityPattern

/-- The object has the properties that a priority pattern is read from.  It need not say whether
the patterns are drained fairly. -/
structure ReadFrom (o : Object) (p : PriorityPattern) : Prop where
  pattern : o.HasValues "pattern" .str p.pattern
  fairly : ((o.get? "fairly").getD (.bool false)) = .bool p.fairly

variable {o : Object} {p : PriorityPattern} {v : Json}

theorem readFairly_eq_ok_iff {b : Bool} :
    readFairly o = .ok b ↔ (o.get? "fairly").getD (.bool false) = .bool b := by
  unfold readFairly
  cases o.get? "fairly" with
  | none =>
      simp only [Except.ok.injEq, Option.getD_none, Json.bool.injEq]
  | some w =>
      exact Object.asBool_eq_ok_iff

theorem result_draft_eq_ok_iff : (draft o).result = .ok p.fields ↔ p.ReadFrom o := by
  simp only [draft, Traced.result_bind_eq_ok_iff, Traced.result_lift,
    Traced.result_pure_eq_ok_iff, Object.result_strings_eq_ok_iff, readFairly_eq_ok_iff]
  constructor
  · rintro ⟨_, hpattern, _, hfairly, hfields⟩
    cases hfields
    exact ⟨hpattern, hfairly⟩
  · intro h
    exact ⟨_, h.pattern, _, h.fairly, rfl⟩

theorem ReadFrom.fits (h : p.ReadFrom o) : shape.Fits o :=
  List.forall_mem_singleton.mpr h.pattern.fits

theorem result_ofJson_eq_ok_iff :
    (ofJson v).result = .ok p ↔ ∃ o, v = .obj o ∧ p.ReadFrom o ∧ p.Valid :=
  Shape.result_record_eq_ok_iff (fun _ => PriorityPatternDraft.build_eq_ok_iff)
    (fun _ => result_draft_eq_ok_iff) fun _ => ReadFrom.fits

/-- A valid priority pattern is read back from its own value. -/
theorem result_ofJson_toJson (h : p.Valid) : (ofJson p.toJson).result = .ok p :=
  result_ofJson_eq_ok_iff.mpr ⟨_, rfl, ⟨.inl rfl, rfl⟩, h⟩

end PriorityPattern

end JobWire
