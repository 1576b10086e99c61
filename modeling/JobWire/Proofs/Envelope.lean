import JobWire.Proofs.Job.Reading

/-!
# Records that are read back

A type of records is *stable* on the wire when decoding keeps to the limits of what it reads: a
record that was read is written as a value that can be read wherever its own could, and is read back
from it.  Every type of records is stable.  The level at which a value is readable is any, so that
the stability of a record gives that of the records that contain it.

**Results.**
* `Wire.stable_event`, `Wire.stable_job`, `Wire.stable_jobs`, `Wire.stable_recurringJob`: records
  and lists of them.
* `Wire.stable_jidsResult`, `Wire.stable_trackedJobs`, `Wire.stable_workerJobs`: envelopes.
-/

namespace JobWire

namespace JidsResult

variable {v : Json} {r : JidsResult} {level : Nat}

theorem result_ofJson_eq_ok_iff :
    (ofJson v).result = .ok r ↔
      ∃ o : Object, v = .obj o ∧ o.HasValues "jobs" .str r.jids ∧
        o.get? "total" = some (.int r.total) := by
  simp only [ofJson, Traced.result_bind_eq_ok_iff, Traced.result_lift,
    Traced.result_pure_eq_ok_iff, Json.asObject_eq_ok_iff, Object.result_envelopeJids_eq_ok_iff,
    Object.require_eq_ok_iff, Object.asInt_eq_ok_iff]
  constructor
  · rintro ⟨o, rfl, jids, hjids, _, htotal, total, rfl, rfl⟩
    exact ⟨o, rfl, hjids, htotal⟩
  · rintro ⟨o, rfl, hjids, htotal⟩
    exact ⟨o, rfl, _, hjids, _, htotal, _, rfl, rfl⟩

/-- Every page of jids is read back from its own value. -/
theorem result_ofJson_toJson (r : JidsResult) : (ofJson r.toJson).result = .ok r :=
  result_ofJson_eq_ok_iff.mpr ⟨_, rfl, .inl rfl, rfl⟩

theorem readable_toJson (hv : v.Readable level) (h : (ofJson v).result = .ok r) :
    r.toJson.Readable level := by
  obtain ⟨o, rfl, hjids, htotal⟩ := result_ofJson_eq_ok_iff.mp h
  refine Json.readable_obj_iff.mpr ⟨hv.level_le, by simp [Object.names], ?_⟩
  exact List.forall_mem_cons.mpr ⟨Object.readable_of_get? hv htotal,
    List.forall_mem_singleton.mpr (hjids.readable hv)⟩

end JidsResult

namespace WorkerJobs

variable {v : Json} {w : WorkerJobs} {level : Nat}

theorem result_ofJson_eq_ok_iff :
    (ofJson v).result = .ok w ↔
      ∃ o : Object, v = .obj o ∧ o.HasValues "jobs" .str w.jids ∧
        o.HasValues "stalled" .str w.stalledJids := by
  simp only [ofJson, Traced.result_bind_eq_ok_iff, Traced.result_lift,
    Traced.result_pure_eq_ok_iff, Json.asObject_eq_ok_iff, Object.result_envelopeJids_eq_ok_iff]
  constructor
  · rintro ⟨o, rfl, _, hjids, _, hstalled, rfl⟩
    exact ⟨o, rfl, hjids, hstalled⟩
  · rintro ⟨o, rfl, hjids, hstalled⟩
    exact ⟨o, rfl, _, hjids, _, hstalled, rfl⟩

/-- The jobs of a worker are always read back from their own value. -/
theorem result_ofJson_toJson (w : WorkerJobs) : (ofJson w.toJson).result = .ok w :=
  result_ofJson_eq_ok_iff.mpr ⟨_, rfl, .inl rfl, .inl rfl⟩

theorem readable_toJson (hv : v.Readable level) (h : (ofJson v).result = .ok w) :
    w.toJson.Readable level := by
  obtain ⟨o, rfl, hjids, hstalled⟩ := result_ofJson_eq_ok_iff.mp h
  refine Json.readable_obj_iff.mpr ⟨hv.level_le, by simp [Object.names], ?_⟩
  exact List.forall_mem_cons.mpr ⟨hjids.readable hv,
    List.forall_mem_singleton.mpr (hstalled.readable hv)⟩

end WorkerJobs

namespace TrackedJobs

variable {v : Json} {t : TrackedJobs} {level : Nat}

theorem result_ofJson_eq_ok_iff :
    (ofJson v).result = .ok t ↔
      ∃ o : Object, v = .obj o ∧ o.HasList "jobs" Job.ofJson t.jobs ∧
        o.HasValues "expired" .str t.expiredJids := by
  simp only [ofJson, Traced.result_bind_eq_ok_iff, Traced.result_lift,
    Traced.result_pure_eq_ok_iff, Json.asObject_eq_ok_iff, Object.result_envelopeJids_eq_ok_iff,
    Object.result_envelopeList_eq_ok_iff, ← Object.hasList_iff_result]
  constructor
  · rintro ⟨o, rfl, _, hjobs, _, hexpired, rfl⟩
    exact ⟨o, rfl, hjobs, hexpired⟩
  · rintro ⟨o, rfl, hjobs, hexpired⟩
    exact ⟨o, rfl, _, hjobs, _, hexpired, rfl⟩

/-- Tracked jobs are read back from their own value if each job is. -/
theorem result_ofJson_toJson (h : ∀ j ∈ t.jobs, (Job.ofJson j.toJson).result = .ok j) :
    (ofJson t.toJson).result = .ok t :=
  result_ofJson_eq_ok_iff.mpr
    ⟨_, rfl, Object.hasList_iff.mpr ⟨_, rfl, Json.result_list_map_iff.mpr h⟩, .inl rfl⟩

theorem readBack_of_ofJson (hv : v.Readable level) (h : (ofJson v).result = .ok t) :
    (ofJson t.toJson).result = .ok t := by
  obtain ⟨o, rfl, hjobs, -⟩ := result_ofJson_eq_ok_iff.mp h
  obtain ⟨items, hget, hlist⟩ := Object.hasList_iff.mp hjobs
  refine result_ofJson_toJson fun j hj => ?_
  obtain ⟨w, hw, hitem⟩ := Json.exists_item_of_list hlist j hj
  exact Job.readBack_of_ofJson (hw _ (Object.readable_of_get? hv hget)) hitem

theorem readable_toJson (hv : v.Readable level) (h : (ofJson v).result = .ok t) :
    t.toJson.Readable level := by
  obtain ⟨o, rfl, hjobs, hexpired⟩ := result_ofJson_eq_ok_iff.mp h
  obtain ⟨items, hget, hlist⟩ := Object.hasList_iff.mp hjobs
  have hitems := Object.readable_of_get? hv hget
  refine Json.readable_obj_iff.mpr ⟨hv.level_le, by simp [Object.names], ?_⟩
  exact List.forall_mem_cons.mpr
    ⟨Json.readable_arr_map hitems hlist fun _ _ => Job.readable_toJson,
      List.forall_mem_singleton.mpr (hexpired.readable hv)⟩

end TrackedJobs

namespace Wire

/-- A record that was read from a readable value is written as one, and is read back from it. -/
structure Stable (α : Type) [Wire α] : Prop where
  readable : ∀ {level : Nat} {v : Json} {a : α}, v.Readable level →
    (ofJson v : Decode α).result = .ok a → (toJson a).Readable level
  readBack : ∀ {level : Nat} {v : Json} {a : α}, v.Readable level →
    (ofJson v : Decode α).result = .ok a → (ofJson (toJson a) : Decode α).result = .ok a

theorem stable_event : Stable Event :=
  ⟨Event.readable_toJson, Event.readBack_of_ofJson⟩

theorem stable_job : Stable Job :=
  ⟨Job.readable_toJson, Job.readBack_of_ofJson⟩

theorem stable_recurringJob : Stable RecurringJob :=
  ⟨RecurringJob.readable_toJson,
    fun _ h => RecurringJob.result_ofJson_toJson (RecurringJob.valid_of_ofJson h)⟩

/-- A list of jobs that was read is read back. -/
theorem stable_jobs : Stable (List Job) where
  readable hv h := Json.readable_arr_map hv h fun _ _ => Job.readable_toJson
  readBack hv h := Json.result_list_map_iff.mpr fun j hj => by
    obtain ⟨w, hw, hitem⟩ := Json.exists_item_of_list h j hj
    exact Job.readBack_of_ofJson (hw _ hv) hitem

theorem stable_jidsResult : Stable JidsResult :=
  ⟨JidsResult.readable_toJson, fun _ _ => JidsResult.result_ofJson_toJson _⟩

theorem stable_trackedJobs : Stable TrackedJobs :=
  ⟨TrackedJobs.readable_toJson, TrackedJobs.readBack_of_ofJson⟩

theorem stable_workerJobs : Stable WorkerJobs :=
  ⟨WorkerJobs.readable_toJson, fun _ _ => WorkerJobs.result_ofJson_toJson _⟩

end Wire

end JobWire
