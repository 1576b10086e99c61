import JobWire.Proofs.Envelope

/-!
# Jobs written and read back

A job that can be constructed is the job that is read from its own value.  Its constraints keep
every field apart from the placeholder for its absence, its events are each read back as the kind of
event that they are, and its failure is never written as an empty object.

**Results.**
* `Job.Constructed.readBack_tracked`: constructed jobs, and tracked jobs that are put together from
  them, are read back.
-/

namespace JobWire

variable {j : Job} {t : TrackedJobs}

/-- A constructed job is read back from its own value. -/
theorem Job.Constructed.result_ofJson_toJson (h : j.Constructed) :
    (Job.ofJson j.toJson).result = .ok j :=
  Job.result_ofJson_toJson h.valid fun e he => (h.history e he).readBack

/-- Constructed jobs are read back from their own values, and so are tracked jobs put together from
them. -/
theorem Job.Constructed.readBack_tracked (hj : j.Constructed)
    (ht : ∀ k ∈ t.jobs, k.Constructed) :
    (Job.ofJson j.toJson).result = .ok j ∧ (TrackedJobs.ofJson t.toJson).result = .ok t :=
  ⟨hj.result_ofJson_toJson,
    TrackedJobs.result_ofJson_toJson fun k hk => (ht k hk).result_ofJson_toJson⟩

/-- A failed job without a queue, a lock or a parent, whose history has a log event. -/
def Job.failedSample : Job where
  jid := "jid-1"
  className := "SendEmail"
  data := "\x7b\x7d"
  queue := none
  worker := none
  state := "failed"
  priority := 0
  remaining := -1
  retries := 0
  expires := none
  tracked := true
  spawnedFrom := none
  dependencies := []
  dependents := ["jid-2"]
  tags := []
  throttles := ["ql:q:emails"]
  history := [.put 0 "", .log "note" 1 [("text", "[NaN]")], .failed 2 "timeout" " "]
  failure := some ⟨"timeout", "late", 2, "w-1"⟩

theorem Job.constructed_failedSample : Job.failedSample.Constructed := by
  have hput : Event.Constructed (.put 0 "") :=
    .known (show EventDraft.build .put { time := some 0, queue := some "" } = .ok _ by decide)
  have hfailed : Event.Constructed (.failed 2 "timeout" " ") :=
    .known (show EventDraft.build .failed
      { time := some 2, group := some "timeout", worker := some " " } = .ok _ by decide)
  have hdistinct : (Json.obj [("text", .arr [.float .nan])]).Distinct := by
    simp [Json.Distinct, Json.DistinctMembers, Json.DistinctItems]
  have hlog : Event.Constructed (.log "note" 1 [("text", "[NaN]")]) :=
    .log rfl hdistinct (show LogDraft.build
      { what := "note", time := some 1, data := some (.obj [("text", .arr [.float .nan])]) } =
        .ok _ by decide)
  refine ⟨⟨Job.failedSample.fields, by decide⟩, ?_, ?_⟩
  · simp only [Job.failedSample, List.forall_mem_cons]
    exact ⟨hput, hlog, hfailed, by simp⟩
  · rintro f ⟨⟩
    exact ⟨Failure.fields ⟨"timeout", "late", 2, "w-1"⟩, by decide⟩

theorem Job.Constructed.readBack_failedSample :
    Job.failedSample.Constructed ∧
      (Job.ofJson Job.failedSample.toJson).result = .ok Job.failedSample ∧
      (TrackedJobs.ofJson (TrackedJobs.mk [Job.failedSample] ["jid-3"]).toJson).result =
        .ok (TrackedJobs.mk [Job.failedSample] ["jid-3"]) := by
  have hjob := Job.constructed_failedSample
  exact ⟨hjob, hjob.readBack_tracked (List.forall_mem_singleton.mpr hjob)⟩

end JobWire
