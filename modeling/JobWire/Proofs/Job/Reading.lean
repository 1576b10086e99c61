import JobWire.Job.Recurring
import JobWire.Proofs.Event.RoundTrip
import JobWire.Proofs.Job.Failure

/-!
# The objects that a job is read from

A job is read from an object exactly when each of its fields is read from the property that stands
for it, and the job is valid.  Where the wire has a placeholder for the absence of a value, validity
keeps every value apart from the placeholder: so a field that was written is read as it was.

A job that was read keeps to the limits of the text that it came from: written again, it is a value
that can be read wherever that text could.

**Results.**
* `Job.result_ofJson_eq_ok_iff`, `RecurringJob.result_ofJson_eq_ok_iff`: when a job is read, and
  from which values.
* `Job.readable_toJson`, `RecurringJob.readable_toJson`: what was read is written as a value that is
  readable where its own was.
-/

namespace JobWire

section Placeholders

variable {s : Option String} {i : Option Int} {v : Json} {text name : String} {level : Nat}

theorem unlessBlank_eq : Text.unlessBlank text = if NotBlank text then some text else none := by
  by_cases hblank : Text.isBlank text <;> simp [Text.unlessBlank, NotBlank, hblank]

theorem eq_ite_getD (h : NoneOrNotBlank s) :
    s = if NotBlank (s.getD "") then some (s.getD "") else none := by
  cases s with
  | none =>
      rfl
  | some text =>
      exact (if_pos (h text rfl)).symm

theorem readable_ofOptionalText (hv : v.Readable level) :
    (Json.ofOptionalText s).Readable level :=
  Json.readable_str_iff.mpr hv.level_le

namespace Job

/-- The value says which worker holds a job, or stands for none. -/
inductive WorkerOf : Json → Option String → Prop
  | null : WorkerOf .null none
  | blank {text : String} :
      ¬ NotBlank text →
      WorkerOf (.str text) none
  | worker {text : String} :
      NotBlank text →
      WorkerOf (.str text) (some text)

/-- The value says which job spawned another, or stands for none. -/
inductive ParentOf : Json → Option String → Prop
  | null : ParentOf .null none
  | false : ParentOf (.bool false) none
  | jid {text : String} : ParentOf (.str text) (some text)

theorem asOptionalString_eq_ok_iff : v.asOptionalString name = .ok s ↔ WorkerOf v s := by
  constructor
  · intro h
    cases v with
    | null =>
        cases h
        exact .null
    | str text =>
        have hs : Text.unlessBlank text = s := Except.ok.inj h
        rw [unlessBlank_eq] at hs
        split_ifs at hs with hblank
        · exact hs ▸ .worker hblank
        · exact hs ▸ .blank hblank
    | bool _ | int _ | float _ | arr _ | obj _ =>
        cases h
  · rintro (_ | hblank | hblank)
    · rfl
    · exact congrArg Except.ok (unlessBlank_eq.trans (if_neg hblank))
    · exact congrArg Except.ok (unlessBlank_eq.trans (if_pos hblank))

theorem optionalString_eq_ok_iff {o : Object} :
    o.optionalString name = .ok s ↔ ∃ v, o.get? name = some v ∧ WorkerOf v s := by
  simp only [Object.optionalString, bind_eq_ok_iff, Object.value_eq_ok_iff,
    asOptionalString_eq_ok_iff]

theorem parent_eq_ok_iff : parent v = .ok s ↔ ParentOf v s := by
  constructor
  · intro h
    unfold parent at h
    split at h
    · cases h
      exact .null
    · cases h
      exact .false
    · cases h
      exact .jid
    · cases h
  · rintro (_ | _ | _) <;> rfl

theorem workerOf_ofOptionalText (h : NoneOrNotBlank s) : WorkerOf (Json.ofOptionalText s) s := by
  cases s with
  | none =>
      exact .blank (by decide)
  | some text =>
      exact .worker (h text rfl)

theorem parentOf_elim : ParentOf (s.elim .null .str) s := by
  cases s with
  | none =>
      exact .null
  | some text =>
      exact .jid

theorem eq_ite_getD_zero (h : ∀ e ∈ i, 0 < e) :
    i = if 0 < i.getD 0 then some (i.getD 0) else none := by
  cases i with
  | none =>
      rfl
  | some e =>
      exact (if_pos (h e rfl)).symm

theorem readable_expiry {e : Int} (h : (Json.int e).Readable level) :
    (Json.int ((if 0 < e then some e else none).getD 0)).Readable level := by
  split_ifs with hpositive
  · exact h
  · exact Json.readable_int_iff.mpr ⟨h.level_le, by decide⟩

theorem readable_parent (hv : v.Readable level) :
    (s.elim .null .str : Json).Readable level := by
  cases s with
  | none =>
      exact Json.readable_null_iff.mpr hv.level_le
  | some text =>
      exact Json.readable_str_iff.mpr hv.level_le

end Job

end Placeholders

namespace Job

/-- The object has the properties that a job is read from. -/
structure ReadFrom (o : Object) (j : Job) : Prop where
  jid : o.get? "jid" = some (.str j.jid)
  className : o.get? "klass" = some (.str j.className)
  data : o.get? "data" = some (.str j.data)
  queue : ∃ s, o.get? "queue" = some (.str s) ∧ j.queue = if NotBlank s then some s else none
  worker : ∃ v, o.get? "worker" = some v ∧ WorkerOf v j.worker
  state : o.get? "state" = some (.str j.state)
  priority : o.get? "priority" = some (.int j.priority)
  remaining : o.get? "remaining" = some (.int j.remaining)
  retries : o.get? "retries" = some (.int j.retries)
  expires : ∃ i, o.get? "expires" = some (.int i) ∧ j.expires = if 0 < i then some i else none
  tracked : o.get? "tracked" = some (.bool j.tracked)
  spawnedFrom : ∃ v, o.get? "spawned_from_jid" = some v ∧ ParentOf v j.spawnedFrom
  dependencies : o.HasValues "dependencies" .str j.dependencies
  dependents : o.HasValues "dependents" .str j.dependents
  tags : o.HasValues "tags" .str j.tags
  throttles : o.HasValues "throttles" .str j.throttles
  history : o.HasList "history" Event.ofJson j.history
  failure : ∃ v, o.get? "failure" = some v ∧ Failure.ReadAs v j.failure

variable {o : Object} {j : Job} {v : Json} {level : Nat}

/-- The fields of a job are read from the objects that have its properties. -/
theorem result_draft_eq_ok_iff : (draft o).result = .ok j.fields ↔ j.ReadFrom o := by
  simp only [draft, Traced.result_bind_eq_ok_iff, Traced.result_lift, Traced.result_pure_eq_ok_iff,
    Object.string_eq_ok_iff, Object.int_eq_ok_iff, Object.bool_eq_ok_iff, Object.value_eq_ok_iff,
    optionalString_eq_ok_iff, parent_eq_ok_iff, Object.result_strings_eq_ok_iff,
    ← Object.hasList_iff_result, Failure.result_ofJson_eq_ok_iff, unlessBlank_eq, lockExpiry]
  constructor
  · rintro ⟨_, hjid, _, hclass, _, hdata, _, hqueue, _, hworker, _, hstate, _, hpriority,
      _, hremaining, _, hretries, _, hexpires, _, htracked, _, hspawned, _, hparent,
      _, hdependencies, _, hdependents, _, htags, _, hthrottles, _, hhistory, _, hvalue,
      _, hfailure, hfields⟩
    simp only [fields, JobDraft.mk.injEq, Option.some.injEq] at hfields
    obtain ⟨rfl, rfl, rfl, hblank, rfl, rfl, rfl, rfl, rfl, hlock, rfl, rfl, rfl, rfl, rfl, rfl,
      rfl, rfl⟩ := hfields
    exact ⟨hjid, hclass, hdata, ⟨_, hqueue, hblank.symm⟩, hworker, hstate, hpriority, hremaining,
      hretries, ⟨_, hexpires, hlock.symm⟩, htracked, ⟨_, hspawned, hparent⟩, hdependencies,
      hdependents, htags, hthrottles, hhistory, ⟨_, hvalue, hfailure⟩⟩
  · intro h
    obtain ⟨_, hqueue, hblank⟩ := h.queue
    obtain ⟨_, hexpires, hlock⟩ := h.expires
    obtain ⟨_, hspawned, hparent⟩ := h.spawnedFrom
    obtain ⟨_, hvalue, hfailure⟩ := h.failure
    refine ⟨_, h.jid, _, h.className, _, h.data, _, hqueue, _, h.worker, _, h.state, _, h.priority,
      _, h.remaining, _, h.retries, _, hexpires, _, h.tracked, _, hspawned, _, hparent,
      _, h.dependencies, _, h.dependents, _, h.tags, _, h.throttles, _, h.history, _, hvalue,
      _, hfailure, ?_⟩
    rw [← hblank, ← hlock]
    rfl

/-- The object has the shape of a job if a job is read from it. -/
theorem ReadFrom.fits (h : j.ReadFrom o) : shape.Fits o := by
  obtain ⟨_, hqueue, -⟩ := h.queue
  obtain ⟨_, hworker, -⟩ := h.worker
  obtain ⟨_, hexpires, -⟩ := h.expires
  obtain ⟨_, hspawned, -⟩ := h.spawnedFrom
  obtain ⟨_, hfailure, -⟩ := h.failure
  simp only [Shape.Fits, shape, List.forall_mem_cons]
  refine ⟨⟨_, h.data, by simp⟩, h.dependencies.fits, h.dependents.fits, ⟨_, hexpires, by simp⟩,
    ⟨_, hfailure, by simp⟩, h.history.fits, ⟨_, h.jid, by simp⟩, ⟨_, h.className, by simp⟩,
    ⟨_, h.priority, by simp⟩, ⟨_, hqueue, by simp⟩, ⟨_, h.remaining, by simp⟩,
    ⟨_, h.retries, by simp⟩, ⟨_, hspawned, by simp⟩, ⟨_, h.state, by simp⟩, h.tags.fits,
    h.throttles.fits, ⟨_, h.tracked, by simp⟩, ⟨_, hworker, by simp⟩, by simp⟩

/-- A job is read from the objects that have its properties, if it is valid. -/
theorem result_ofJson_eq_ok_iff :
    (ofJson v).result = .ok j ↔ ∃ o, v = .obj o ∧ j.ReadFrom o ∧ j.Valid := by
  simp only [ofJson, Traced.result_bind_eq_ok_iff, Shape.result_read_eq_ok_iff,
    Traced.result_liftBuilt_eq_ok_iff, JobDraft.build_eq_ok_iff]
  constructor
  · rintro ⟨o, ⟨rfl, -⟩, _, hdraft, rfl, hbare⟩
    have hread := result_draft_eq_ok_iff.mp hdraft
    refine ⟨o, rfl, hread, valid_iff.mpr ⟨hbare, ?_, ?_⟩⟩
    · obtain ⟨_, -, hlist⟩ := Object.hasList_iff.mp hread.history
      intro e he
      obtain ⟨_, -, hitem⟩ := Json.exists_item_of_list hlist e he
      exact Event.valid_of_ofJson hitem
    · obtain ⟨_, -, hfailure⟩ := hread.failure
      exact Failure.valid_of_ofJson (Failure.result_ofJson_eq_ok_iff.mpr hfailure)
  · rintro ⟨o, rfl, hread, hvalid⟩
    exact ⟨o, ⟨rfl, hread.fits⟩, _, result_draft_eq_ok_iff.mpr hread, rfl,
      (valid_iff.mp hvalid).1⟩

/-- A valid job is read back from its own value if each of its events is. -/
theorem result_ofJson_toJson (h : j.Valid)
    (hevents : ∀ e ∈ j.history, (Event.ofJson e.toJson).result = .ok e) :
    (ofJson j.toJson).result = .ok j := by
  refine result_ofJson_eq_ok_iff.mpr ⟨_, rfl, ?_, h⟩
  exact {
    jid := rfl
    className := rfl
    data := rfl
    queue := ⟨_, rfl, eq_ite_getD h.queue⟩
    worker := ⟨_, rfl, workerOf_ofOptionalText h.worker⟩
    state := rfl
    priority := rfl
    remaining := rfl
    retries := rfl
    expires := ⟨_, rfl, eq_ite_getD_zero h.expires⟩
    tracked := rfl
    spawnedFrom := ⟨_, rfl, parentOf_elim⟩
    dependencies := .inl rfl
    dependents := .inl rfl
    tags := .inl rfl
    throttles := .inl rfl
    history := Object.hasList_iff.mpr ⟨_, rfl, Json.result_list_map_iff.mpr hevents⟩
    failure :=
      ⟨_, rfl, Failure.result_ofJson_eq_ok_iff.mp (Failure.result_ofJson_toJson h.failure)⟩ }

/-- A valid job is read back from its own value if and only if its events are canonical. -/
theorem result_ofJson_toJson_iff (h : j.Valid) :
    (ofJson j.toJson).result = .ok j ↔ ∀ e ∈ j.history, e.Canonical := by
  have hevents : (∀ e ∈ j.history, e.Canonical) ↔
      ∀ e ∈ j.history, (Event.ofJson e.toJson).result = .ok e :=
    forall₂_congr fun e he => (Event.result_ofJson_toJson_iff (h.history e he)).symm
  rw [hevents]
  constructor
  · intro hread
    obtain ⟨o, ho, hfrom, -⟩ := result_ofJson_eq_ok_iff.mp hread
    cases ho
    obtain ⟨w, hget, hlist⟩ := Object.hasList_iff.mp hfrom.history
    cases hget
    exact Json.result_list_map_iff.mp hlist
  · exact result_ofJson_toJson h

section Decoded

theorem valid_of_ofJson (h : (ofJson v).result = .ok j) : j.Valid := by
  obtain ⟨_, -, -, hvalid⟩ := result_ofJson_eq_ok_iff.mp h
  exact hvalid

/-- Every event of a job that was read stems from a value inside the one that was read. -/
theorem exists_event_of_ofJson (hv : v.Readable level) (h : (ofJson v).result = .ok j) :
    ∀ e ∈ j.history, ∃ w, w.Readable (level + 2) ∧ (Event.ofJson w).result = .ok e := by
  obtain ⟨o, rfl, hread, -⟩ := result_ofJson_eq_ok_iff.mp h
  obtain ⟨items, hget, hlist⟩ := Object.hasList_iff.mp hread.history
  intro e he
  obtain ⟨w, hw, hitem⟩ := Json.exists_item_of_list hlist e he
  exact ⟨w, hw _ (Object.readable_of_get? hv hget), hitem⟩

/-- A job that was read from a readable value is read back from its own. -/
theorem readBack_of_ofJson (hv : v.Readable level) (h : (ofJson v).result = .ok j) :
    (ofJson j.toJson).result = .ok j := by
  refine result_ofJson_toJson (valid_of_ofJson h) fun e he => ?_
  obtain ⟨w, hw, hitem⟩ := exists_event_of_ofJson hv h e he
  exact Event.readBack_of_ofJson hw hitem

/-- A job that was read is written as a value that is readable where its own was. -/
theorem readable_toJson (hv : v.Readable level) (h : (ofJson v).result = .ok j) :
    j.toJson.Readable level := by
  obtain ⟨o, rfl, hread, -⟩ := result_ofJson_eq_ok_iff.mp h
  have hget : ∀ {name w}, Object.get? o name = some w → w.Readable (level + 1) :=
    fun hname => Object.readable_of_get? hv hname
  obtain ⟨_, hqueue, -⟩ := hread.queue
  obtain ⟨_, hworker, -⟩ := hread.worker
  obtain ⟨_, hexpires, hlock⟩ := hread.expires
  obtain ⟨_, hspawned, -⟩ := hread.spawnedFrom
  obtain ⟨_, hhistory, hevents⟩ := Object.hasList_iff.mp hread.history
  obtain ⟨_, hvalue, hfailure⟩ := hread.failure
  have hexpiry : (Json.int (j.expires.getD 0)).Readable (level + 1) :=
    hlock ▸ readable_expiry (hget hexpires)
  refine Json.readable_obj_iff.mpr ⟨hv.level_le, by simp [Object.names], ?_⟩
  simp only [List.forall_mem_cons]
  exact ⟨hget hread.data, hread.dependencies.readable hv, hread.dependents.readable hv, hexpiry,
    Failure.readable_toJson (hget hvalue) (Failure.result_ofJson_eq_ok_iff.mpr hfailure),
    Json.readable_arr_map (hget hhistory) hevents fun _ _ => Event.readable_toJson,
    hget hread.jid, hget hread.className, hget hread.priority,
    readable_ofOptionalText (hget hqueue), hget hread.remaining, hget hread.retries,
    readable_parent (hget hspawned), hget hread.state, hread.tags.readable hv,
    hread.throttles.readable hv, hget hread.tracked, readable_ofOptionalText (hget hworker),
    by simp⟩

end Decoded

end Job

namespace RecurringJob

/-- The object has the properties that a recurring job is read from. -/
structure ReadFrom (o : Object) (j : RecurringJob) : Prop where
  jid : o.get? "jid" = some (.str j.jid)
  className : o.get? "klass" = some (.str j.className)
  data : o.get? "data" = some (.str j.data)
  queue : ∃ s, o.get? "queue" = some (.str s) ∧ j.queue = if NotBlank s then some s else none
  state : o.get? "state" = some (.str j.state)
  priority : o.get? "priority" = some (.int j.priority)
  retries : o.get? "retries" = some (.int j.retries)
  count : o.get? "count" = some (.int j.count)
  intervalSeconds : o.get? "interval" = some (.int j.intervalSeconds)
  maximumBacklog : o.get? "backlog" = some (.int j.maximumBacklog)
  tags : o.HasValues "tags" .str j.tags
  throttles : o.HasValues "throttles" .str j.throttles

variable {o : Object} {j : RecurringJob} {v : Json} {level : Nat}

theorem result_draft_eq_ok_iff : (draft o).result = .ok j.fields ↔ j.ReadFrom o := by
  simp only [draft, Traced.result_bind_eq_ok_iff, Traced.result_lift, Traced.result_pure_eq_ok_iff,
    Object.string_eq_ok_iff, Object.int_eq_ok_iff, Object.result_strings_eq_ok_iff, unlessBlank_eq]
  constructor
  · rintro ⟨_, hjid, _, hclass, _, hdata, _, hqueue, _, hstate, _, hpriority, _, hretries,
      _, hcount, _, hinterval, _, hbacklog, _, htags, _, hthrottles, hfields⟩
    simp only [fields, RecurringJobDraft.mk.injEq, Option.some.injEq] at hfields
    obtain ⟨rfl, rfl, rfl, hblank, rfl, rfl, rfl, rfl, rfl, rfl, rfl, rfl⟩ := hfields
    exact ⟨hjid, hclass, hdata, ⟨_, hqueue, hblank.symm⟩, hstate, hpriority, hretries, hcount,
      hinterval, hbacklog, htags, hthrottles⟩
  · intro h
    obtain ⟨_, hqueue, hblank⟩ := h.queue
    refine ⟨_, h.jid, _, h.className, _, h.data, _, hqueue, _, h.state, _, h.priority,
      _, h.retries, _, h.count, _, h.intervalSeconds, _, h.maximumBacklog, _, h.tags,
      _, h.throttles, ?_⟩
    rw [← hblank]
    rfl

/-- The object has the shape of a recurring job if a recurring job is read from it. -/
theorem ReadFrom.fits (h : j.ReadFrom o) : shape.Fits o := by
  obtain ⟨_, hqueue, -⟩ := h.queue
  simp only [Shape.Fits, shape, List.forall_mem_cons]
  refine ⟨⟨_, h.maximumBacklog, by simp⟩, ⟨_, h.count, by simp⟩, ⟨_, h.data, by simp⟩,
    ⟨_, h.intervalSeconds, by simp⟩, ⟨_, h.jid, by simp⟩, ⟨_, h.className, by simp⟩,
    ⟨_, h.priority, by simp⟩, ⟨_, hqueue, by simp⟩, ⟨_, h.retries, by simp⟩,
    ⟨_, h.state, by simp⟩, h.tags.fits, h.throttles.fits, by simp⟩

/-- A recurring job is read from the objects that have its properties, if it is valid. -/
theorem result_ofJson_eq_ok_iff :
    (ofJson v).result = .ok j ↔ ∃ o, v = .obj o ∧ j.ReadFrom o ∧ j.Valid := by
  simp only [ofJson, Traced.result_bind_eq_ok_iff, Shape.result_read_eq_ok_iff,
    Traced.result_liftBuilt_eq_ok_iff, RecurringJobDraft.build_eq_ok_iff]
  constructor
  · rintro ⟨o, ⟨rfl, -⟩, _, hdraft, rfl, hvalid⟩
    exact ⟨o, rfl, result_draft_eq_ok_iff.mp hdraft, hvalid⟩
  · rintro ⟨o, rfl, hread, hvalid⟩
    exact ⟨o, ⟨rfl, hread.fits⟩, _, result_draft_eq_ok_iff.mpr hread, rfl, hvalid⟩

theorem valid_of_ofJson (h : (ofJson v).result = .ok j) : j.Valid := by
  obtain ⟨_, -, -, hvalid⟩ := result_ofJson_eq_ok_iff.mp h
  exact hvalid

/-- A valid recurring job is read back from its own value. -/
theorem result_ofJson_toJson (h : j.Valid) : (ofJson j.toJson).result = .ok j := by
  refine result_ofJson_eq_ok_iff.mpr ⟨_, rfl, ?_, h⟩
  exact {
    jid := rfl
    className := rfl
    data := rfl
    queue := ⟨_, rfl, eq_ite_getD h.queue⟩
    state := rfl
    priority := rfl
    retries := rfl
    count := rfl
    intervalSeconds := rfl
    maximumBacklog := rfl
    tags := .inl rfl
    throttles := .inl rfl }

/-- A recurring job that was read is written as a value that is readable where its own was. -/
theorem readable_toJson (hv : v.Readable level) (h : (ofJson v).result = .ok j) :
    j.toJson.Readable level := by
  obtain ⟨o, rfl, hread, -⟩ := result_ofJson_eq_ok_iff.mp h
  have hget : ∀ {name w}, Object.get? o name = some w → w.Readable (level + 1) :=
    fun hname => Object.readable_of_get? hv hname
  obtain ⟨_, hqueue, -⟩ := hread.queue
  refine Json.readable_obj_iff.mpr ⟨hv.level_le, by simp [Object.names], ?_⟩
  simp only [List.forall_mem_cons]
  exact ⟨hget hread.maximumBacklog, hget hread.count, hget hread.data,
    hget hread.intervalSeconds, hget hread.jid, hget hread.className, hget hread.priority,
    readable_ofOptionalText (hget hqueue), hget hread.retries, hget hread.state,
    hread.tags.readable hv, hread.throttles.readable hv, by simp⟩

end RecurringJob

end JobWire
