import JobWire.Proofs.Bench.Sample
import JobWire.Proofs.Codec

/-!
# Scenarios on their own payloads

A scenario is run on the payload that was made for it, and must get through: the payload is decoded
before anything is measured, and again in every call.  The scenario of events decodes what it has
encoded itself, so the events must be read back as well.

Every payload gets through whose integers can be read.  The others are documents that are not read
at all; their histories are longer than any list.

**Results.**
* `Wire.Stable.decode_encode`: what was decoded from a readable value is decoded from its own text.
* `Scenario.result_run_of_workload`: a run yields the measurements if its workload does not fail.
* `Scenario.runs_own_payload`: what every scenario makes of its own payload, for all sizes.
-/

namespace JobWire

section Texts

variable {α : Type} [Wire α] {v : Json}

theorem result_json_render (hv : v.Readable 0) : (Document.text v.render).json.result = .ok v :=
  result_ofExcept_elim_eq_ok_iff.mpr (Json.parse_render_of_readable hv)

/-- The text of a value that is not readable is not read. -/
theorem result_json_render_of_not (hdistinct : v.Distinct) (hv : ¬ v.Readable 0) :
    (Document.text v.render).json.result = .error .invalidJson := by
  have hparse : Json.parse v.render = none := by
    rw [Option.eq_none_iff_forall_ne_some]
    exact fun w hw => hv ((Json.parse_render_eq_some_iff hdistinct).mp hw).2
  rw [Document.json, hparse]
  rfl

theorem result_decode_render (hv : v.Readable 0) :
    (decode α (.text v.render)).result = (Wire.ofJson v : Decode α).result := by
  rw [decode, Traced.result_bind, result_json_render hv]
  rfl

theorem result_decode_render_of_not (hdistinct : v.Distinct) (hv : ¬ v.Readable 0) :
    (decode α (.text v.render)).result = .error .invalidJson := by
  rw [decode, Traced.result_bind, result_json_render_of_not hdistinct hv]
  rfl

/-- What was decoded from a readable value is decoded from its own text. -/
theorem Wire.Stable.decode_encode (hstable : Stable α) {a : α} (hv : v.Readable 0)
    (h : (ofJson v : Decode α).result = .ok a) :
    (decode α (.text (encode a))).result = .ok a :=
  (result_decode_render (hstable.readable hv h)).trans (hstable.readBack hv h)

end Texts

namespace Bench

section Records

variable {α : Type} [Wire α] {payload : String}

theorem Workload.exists_ofRecord {a : α} (h : (JobWire.decode α (.text payload)).result = .ok a) :
    ∃ w, (ofRecord α payload).result = .ok w ∧ ∃ u, (w.decode ()).result = .ok u :=
  ⟨_, Traced.result_bind_eq_ok_iff.mpr ⟨a, h, rfl⟩, (),
    Traced.result_bind_eq_ok_iff.mpr ⟨a, h, rfl⟩⟩

theorem Workload.result_ofRecord_of_error {e : DecodeError}
    (h : (JobWire.decode α (.text payload)).result = .error e) :
    (ofRecord α payload).result = .error e := by
  rw [ofRecord, Traced.result_bind, h]
  rfl

end Records

section Events

variable {historyLength : Int}

theorem readable_of_mem_sampleHistory (h : TimesFit historyLength) {w : Json}
    (hw : w ∈ sampleHistory historyLength) : w.Readable 0 := by
  have hhistory : (Json.arr (sampleHistory historyLength)).Readable 0 :=
    (readable_sampleHistory_iff (by decide)).mpr h
  exact ((Json.readable_arr_iff.mp hhistory).2 w hw).mono (Nat.zero_le _)

/-- The events of a sample history are decoded from the texts of its entries. -/
theorem result_decodeEvents_sampleHistory (h : TimesFit historyLength) :
    (Workload.decodeEvents ((sampleHistory historyLength).map Json.render)).result =
      .ok (decodedHistory historyLength) := by
  rw [Workload.decodeEvents, Traced.result_each_eq_ok_iff, sampleHistory, decodedHistory,
    List.map_map, List.forall₂_map_left_iff, List.forall₂_map_right_iff, List.forall₂_same]
  intro i hi
  have hentry : sampleEvent i ∈ sampleHistory historyLength := List.mem_map_of_mem hi
  exact (result_decode_render (readable_of_mem_sampleHistory h hentry)).trans
    (result_ofJson_sampleEvent i)

/-- The events of a sample history are read back from the texts that they are encoded to. -/
theorem result_decodeEvents_encoded (h : TimesFit historyLength) :
    (Workload.decodeEvents ((decodedHistory historyLength).map encode)).result =
      .ok (decodedHistory historyLength) := by
  refine Traced.result_each_map_iff.mpr fun e he => ?_
  obtain ⟨i, hi, rfl⟩ := List.mem_map.mp he
  have hentry : sampleEvent i ∈ sampleHistory historyLength := List.mem_map_of_mem hi
  exact Wire.stable_event.decode_encode (readable_of_mem_sampleHistory h hentry)
    (result_ofJson_sampleEvent i)

end Events

namespace Scenario

section Payloads

variable {s : Scenario} {historyLength count : Int}

theorem result_json_payload (h : s.Fits historyLength count) :
    (Document.text (s.payload historyLength count)).json.result =
      .ok (s.document historyLength count) :=
  result_json_render ((readable_document_iff s).mpr h)

theorem result_decode_payload {α : Type} [Wire α] (h : s.Fits historyLength count) :
    (JobWire.decode α (.text (s.payload historyLength count))).result =
      (Wire.ofJson (s.document historyLength count) : Decode α).result :=
  result_decode_render ((readable_document_iff s).mpr h)

theorem result_json_payload_of_not (h : ¬ s.Fits historyLength count) :
    (Document.text (s.payload historyLength count)).json.result = .error .invalidJson :=
  result_json_render_of_not (distinct_document s) (mt (readable_document_iff s).mp h)

theorem result_decode_payload_of_not {α : Type} [Wire α] (h : ¬ s.Fits historyLength count) :
    (JobWire.decode α (.text (s.payload historyLength count))).result = .error .invalidJson :=
  result_decode_render_of_not (distinct_document s) (mt (readable_document_iff s).mp h)

/-- The payload of a job is decoded into the job. -/
theorem result_decode_job (h : TimesFit historyLength) :
    (JobWire.decode Job (.text (job.payload historyLength count))).result =
      .ok (decodedJob (sampleJid 0) historyLength) :=
  (result_decode_payload (s := job) h).trans (result_ofJson_sampleJob (notBlank_sampleJid 0))

/-- The payload of jobs is decoded into all of them. -/
theorem result_decode_jobs (h : 0 < count → TimesFit historyLength) :
    (JobWire.decode (List Job) (.text (jobs.payload historyLength count))).result =
      .ok (decodedJobs historyLength count) :=
  (result_decode_payload (s := jobs) h).trans (result_listOfJson_sampleJobs historyLength count)

/-- The payload of tracked jobs is decoded into the same jobs. -/
theorem result_decode_tracked (h : 0 < count → TimesFit historyLength) :
    (JobWire.decode TrackedJobs (.text (tracked.payload historyLength count))).result =
      .ok ⟨decodedJobs historyLength count, ["gone-1", "gone-2"]⟩ :=
  (result_decode_payload (s := tracked) h).trans (result_ofJson_trackedDocument historyLength count)

theorem exists_ofEvents (h : TimesFit historyLength) :
    ∃ w, (Workload.ofEvents (events.payload historyLength count)).result = .ok w ∧
      ∃ u, (w.decode ()).result = .ok u := by
  have hjson : (Document.text (events.payload historyLength count)).json.result = .ok _ :=
    result_json_payload h
  refine ⟨_, Traced.result_bind_eq_ok_iff.mpr ⟨_, hjson, Traced.result_bind_eq_ok_iff.mpr
    ⟨_, result_decodeEvents_sampleHistory h, rfl⟩⟩, (), ?_⟩
  exact Traced.result_bind_eq_ok_iff.mpr ⟨_, result_decodeEvents_encoded h, rfl⟩

/-- The payload of a scenario is decoded before the calls, and in each of them. -/
theorem exists_workload (h : s.Fits historyLength count) :
    ∃ w, (s.workload (s.payload historyLength count)).result = .ok w ∧
      ∃ u, (w.decode ()).result = .ok u := by
  cases s with
  | job =>
      exact Workload.exists_ofRecord (result_decode_job h)
  | jobs =>
      exact Workload.exists_ofRecord (result_decode_jobs h)
  | events =>
      exact exists_ofEvents h
  | tracked =>
      exact Workload.exists_ofRecord (result_decode_tracked h)

theorem result_workload_of_not (h : ¬ s.Fits historyLength count) :
    (s.workload (s.payload historyLength count)).result = .error .invalidJson := by
  cases s with
  | job | jobs | tracked =>
      exact Workload.result_ofRecord_of_error (result_decode_payload_of_not h)
  | events =>
      rw [workload, Workload.ofEvents, Traced.result_bind, result_json_payload_of_not h]
      rfl

end Payloads

section Runs

variable {τ : Type} {elapsed : Operation → Nat → τ} {s : Scenario} {payload : String} {calls : Int}

/-- A run yields the measurements if its workload does not fail. -/
theorem result_run_of_workload {w : Workload} (hw : (s.workload payload).result = .ok w)
    (hdecode : ∃ u, (w.decode ()).result = .ok u) :
    (s.run elapsed payload calls).result =
      .ok (s.measurements payload fun operation =>
        (List.range calls.toNat).map (elapsed operation)) := by
  obtain ⟨u, hu⟩ := hdecode
  have hcalls : (Traced.each (fun _ => w.decode ()) (List.range calls.toNat)).result =
      .ok ((List.range calls.toNat).map fun _ => u) := by
    rw [Traced.result_each_eq_ok_iff, List.forall₂_map_right_iff, List.forall₂_same]
    exact fun _ _ => hu
  exact Traced.result_bind_eq_ok_iff.mpr
    ⟨w, hw, Traced.result_bind_eq_ok_iff.mpr ⟨_, hcalls, rfl⟩⟩

theorem result_run_of_error {e : DecodeError} (h : (s.workload payload).result = .error e) :
    (s.run elapsed payload calls).result = .error e := by
  rw [run, Traced.result_bind, h]
  rfl

end Runs

/-- The payload of a job holds a history of the given length, or of one event if that is less.  The
history starts with a put, and is what the elements of the payload of events are decoded into, one
by one, as they are and as texts of their own. -/
def HoldsHistory (historyLength count : Int) : Prop :=
  ∃ j items,
    (JobWire.decode Job (.text (job.payload historyLength count))).result = .ok j ∧
      (j.history.length : Int) = max historyLength 1 ∧
      (∃ time queue, j.history.head? = some (.put time queue)) ∧
      (Document.text (events.payload historyLength count)).json.result = .ok (.arr items) ∧
      List.Forall₂ (fun w e => (Event.ofJson w).result = .ok e) items j.history ∧
      (Workload.decodeEvents (items.map Json.render)).result = .ok j.history

/-- The payload of jobs holds the given number of jobs, or none if that is negative, with numbered
jids in order, and the payload of tracked jobs holds the same jobs. -/
def HoldsJobs (historyLength count : Int) : Prop :=
  ∃ js expired,
    (JobWire.decode (List Job) (.text (jobs.payload historyLength count))).result = .ok js ∧
      (js.length : Int) = max count 0 ∧
      js.map Job.jid = (List.range count.toNat).map (fun i => "jid-" ++ toString i) ∧
      (JobWire.decode TrackedJobs (.text (tracked.payload historyLength count))).result =
        .ok ⟨js, expired⟩

section Holding

variable {historyLength count : Int}

theorem holdsHistory (h : TimesFit historyLength) : HoldsHistory historyLength count := by
  refine ⟨_, _, result_decode_job h, ?_, ?_, result_json_payload (s := events) h,
    Traced.result_each_eq_ok_iff.mp (result_each_sampleHistory historyLength),
    result_decodeEvents_sampleHistory h⟩
  · simp only [decodedJob, decodedHistory, List.length_map, List.length_range]
    omega
  · obtain ⟨n, hn⟩ : ∃ n, (max historyLength 1).toNat = n + 1 :=
      ⟨(max historyLength 1).toNat - 1, by omega⟩
    refine ⟨startTime + (0 : Nat), "emails", ?_⟩
    rw [decodedJob, decodedHistory, hn, List.range_succ_eq_map]
    rfl

theorem holdsJobs (h : 0 < count → TimesFit historyLength) : HoldsJobs historyLength count := by
  refine ⟨_, _, result_decode_jobs h, ?_, ?_, result_decode_tracked h⟩
  · simp only [decodedJobs, List.length_map, List.length_range]
    omega
  · rw [decodedJobs, List.map_map]
    rfl

end Holding

/-- Every scenario runs through on its own payload, whatever the sizes and the number of calls, with
a measurement of each operation that has one latency for each call.  The payload of a job holds the
sample history, and the payloads of jobs and of tracked jobs hold the sample jobs.  The one exception
are payloads with a time that is too long to be read, which are refused as a whole; no list has
room for so long a history. -/
theorem runs_own_payload {τ : Type} (elapsed : Operation → Nat → τ)
    (historyLength count calls : Int) :
    (∀ s : Scenario, ofName? s.name = some s ∧
      (s.Fits historyLength count → ∃ decoding encoding : List τ,
        (s.run elapsed (s.payload historyLength count) calls).result =
            .ok [⟨s, .decode, (s.payload historyLength count).utf8ByteSize, decoding⟩,
              ⟨s, .encode, (s.payload historyLength count).utf8ByteSize, encoding⟩] ∧
          (decoding.length : Int) = max calls 0 ∧ (encoding.length : Int) = max calls 0) ∧
      (¬ s.Fits historyLength count →
        (s.run elapsed (s.payload historyLength count) calls).result = .error .invalidJson)) ∧
      (job.Fits historyLength count → HoldsHistory historyLength count) ∧
      (jobs.Fits historyLength count → HoldsJobs historyLength count) ∧
      (historyLength < 2 ^ 63 → ∀ s : Scenario, s.Fits historyLength count) := by
  have hlatencies : ∀ operation,
      (((List.range calls.toNat).map (elapsed operation)).length : Int) = max calls 0 := by
    intro operation
    rw [List.length_map, List.length_range]
    omega
  refine ⟨fun s => ⟨?_, fun hfit => ?_, fun hfit => ?_⟩, holdsHistory, holdsJobs,
    fun hlength s => fits_of_timesFit (timesFit_of_lt hlength)⟩
  · cases s <;> decide
  · obtain ⟨w, hw, hdecode⟩ := exists_workload hfit
    exact ⟨_, _, result_run_of_workload hw hdecode, hlatencies .decode, hlatencies .encode⟩
  · exact result_run_of_error (result_workload_of_not hfit)

/-- Two jobs with a history of four events, one log event among them, and no call and no job at
all. -/
theorem runs_own_payload_small :
    (∃ decoding encoding : List Nat,
      (events.run (fun _ i => i) (events.payload 4 2) 3).result =
          .ok [⟨events, .decode, (events.payload 4 2).utf8ByteSize, decoding⟩,
            ⟨events, .encode, (events.payload 4 2).utf8ByteSize, encoding⟩] ∧
        (decoding.length : Int) = max 3 0 ∧ (encoding.length : Int) = max 3 0) ∧
      HoldsHistory 4 2 ∧
      (∃ js expired,
        (JobWire.decode (List Job) (.text (jobs.payload 4 2))).result = .ok js ∧
          js.map Job.jid = ["jid-0", "jid-1"] ∧
          (JobWire.decode TrackedJobs (.text (tracked.payload 4 2))).result =
            .ok ⟨js, expired⟩) ∧
      (∃ decoding encoding : List Nat,
        (tracked.run (fun _ i => i) (tracked.payload (-1) (-1)) (-1)).result =
            .ok [⟨tracked, .decode, (tracked.payload (-1) (-1)).utf8ByteSize, decoding⟩,
              ⟨tracked, .encode, (tracked.payload (-1) (-1)).utf8ByteSize, encoding⟩] ∧
          (decoding.length : Int) = max (-1) 0 ∧ (encoding.length : Int) = max (-1) 0) := by
  obtain ⟨hruns, hhistory, hjobs, hfits⟩ := runs_own_payload (fun _ i => i) 4 2 3
  obtain ⟨hnone, -, -, hfitsNone⟩ := runs_own_payload (fun _ i => i) (-1) (-1) (-1)
  have hfour : ∀ s : Scenario, s.Fits 4 2 := hfits (by decide)
  obtain ⟨js, expired, hdecoded, -, hjids, htracked⟩ := hjobs (hfour jobs)
  have htwo : (List.range (2 : Int).toNat).map (fun i => "jid-" ++ toString i) =
      ["jid-0", "jid-1"] := by decide
  exact ⟨(hruns events).2.1 (hfour events), hhistory (hfour job),
    ⟨js, expired, hdecoded, hjids.trans htwo, htracked⟩,
    (hnone tracked).2.1 (hfitsNone (by decide) tracked)⟩

end Scenario
end Bench
end JobWire
