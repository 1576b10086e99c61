import JobWire.Bench.Scenario
import JobWire.Proofs.Envelope
import JobWire.Proofs.Event.Reading

/-!
# What the sample documents are decoded into

A sample history mixes events of known kinds with log events by their position, and every one of
them is decoded into an event that can be told from the position alone.  So a sample job of any
length of history is decoded, and so are lists of such jobs of any length, and the envelope.

The documents are read from text if their integers are not too long.  All of these are fixed but the
times of the events, and of these the last is the longest.

**Results.**
* `result_ofJson_sampleEvent`, `result_ofJson_sampleJob`, `result_listOfJson_sampleJobs`,
  `result_ofJson_trackedDocument`: what the sample documents are decoded into.
* `Scenario.readable_document_iff`: which of the sample documents are readable.
-/

namespace JobWire
namespace Bench

section Decoded

/-- The event that the entry at a position of a sample history is decoded into. -/
def decodedEvent (i : Nat) : Event :=
  if i = 0 then .put (startTime + i) "emails"
  else if i % 3 = 0 then .popped (startTime + i) "w-1"
  else if i % 3 = 1 then .throttled (startTime + i) "emails"
  else .log "note" (startTime + i) [("text", (Json.str ("step " ++ toString i)).render)]

/-- The history that a sample history is decoded into. -/
def decodedHistory (length : Int) : List Event :=
  (List.range (max length 1).toNat).map decodedEvent

/-- The job that a sample job is decoded into. -/
def decodedJob (jid : String) (historyLength : Int) : Job where
  jid := jid
  className := "SendEmail"
  data := "\x7b\"to\": \"user@example.com\"\x7d"
  queue := some "emails"
  worker := some "w-1"
  state := "running"
  priority := 0
  remaining := 5
  retries := 5
  expires := some 1700000060000
  tracked := false
  spawnedFrom := none
  dependencies := []
  dependents := []
  tags := ["urgent"]
  throttles := ["ql:q:emails"]
  history := decodedHistory historyLength
  failure := none

/-- The jobs that a list of sample jobs is decoded into. -/
def decodedJobs (historyLength count : Int) : List Job :=
  (List.range count.toNat).map fun i => decodedJob (sampleJid i) historyLength

variable {i : Nat} {jid : String} {historyLength count : Int}

theorem time_nonneg (i : Nat) : 0 ≤ startTime + (i : Int) := by
  unfold startTime
  omega

theorem readable_text (s : String) : (Json.str s).Readable 0 :=
  Json.readable_str_iff.mpr (Nat.zero_le _)

theorem valid_decodedEvent (i : Nat) : (decodedEvent i).Valid := by
  unfold decodedEvent
  split_ifs
  · exact time_nonneg i
  · exact time_nonneg i
  · exact time_nonneg i
  · refine ⟨by decide, time_nonneg i, by simp [Event.reservedNames], by simp, ?_⟩
    rw [List.forall_mem_singleton, Json.parse_render_of_readable (readable_text _)]
    rfl

/-- The entry at a position of a sample history is an event of the kind that the position has. -/
theorem result_ofJson_sampleEvent (i : Nat) :
    (Event.ofJson (sampleEvent i)).result = .ok (decodedEvent i) := by
  have hvalid := valid_decodedEvent i
  rw [Event.result_ofJson_eq_ok_iff]
  unfold sampleEvent decodedEvent at *
  split_ifs at hvalid ⊢ <;>
    exact ⟨_, rfl, ⟨rfl, rfl, rfl⟩, hvalid⟩

/-- The entries of a sample history are decoded one by one. -/
theorem result_each_sampleHistory (historyLength : Int) :
    (Traced.each Event.ofJson (sampleHistory historyLength)).result =
      .ok (decodedHistory historyLength) := by
  rw [sampleHistory, decodedHistory, Traced.result_each_eq_ok_iff, List.forall₂_map_left_iff,
    List.forall₂_map_right_iff, List.forall₂_same]
  exact fun i _ => result_ofJson_sampleEvent i

theorem valid_decodedJob (hjid : NotBlank jid) : (decodedJob jid historyLength).Valid where
  jid := hjid
  className := (by decide : NotBlank "SendEmail")
  data := (by decide : NotBlank "\x7b\"to\": \"user@example.com\"\x7d")
  queue := (by decide : NoneOrNotBlank (some "emails"))
  worker := (by decide : NoneOrNotBlank (some "w-1"))
  state := (by decide : NotBlank "running")
  priority := by simp [decodedJob]
  retries := by simp [decodedJob]
  expires := by simp [decodedJob]
  spawnedFrom := by simp [decodedJob, NoneOrNotBlank]
  dependencies := by simp [decodedJob, NoBlankItem]
  dependents := by simp [decodedJob, NoBlankItem]
  tags := (by decide : NoBlankItem ["urgent"])
  throttles := (by decide : NoBlankItem ["ql:q:emails"])
  history := List.forall_mem_map.mpr fun i _ => valid_decodedEvent i
  failure := by simp [decodedJob]
  remaining := by simp [decodedJob]

/-- A sample job is decoded with the whole of its history. -/
theorem result_ofJson_sampleJob (hjid : NotBlank jid) :
    (Job.ofJson (sampleJob jid historyLength)).result = .ok (decodedJob jid historyLength) := by
  refine Job.result_ofJson_eq_ok_iff.mpr ⟨_, rfl, ?_, valid_decodedJob hjid⟩
  exact {
    jid := rfl
    className := rfl
    data := rfl
    queue := ⟨_, rfl, (if_pos (by decide)).symm⟩
    worker := ⟨_, rfl, .worker (by decide)⟩
    state := rfl
    priority := rfl
    remaining := rfl
    retries := rfl
    expires := ⟨_, rfl, (if_pos (by decide)).symm⟩
    tracked := rfl
    spawnedFrom := ⟨_, rfl, .false⟩
    dependencies := .inr ⟨rfl, rfl⟩
    dependents := .inl rfl
    tags := .inl rfl
    throttles := .inl rfl
    history := Object.hasList_iff.mpr
      ⟨_, rfl, Json.list_arr ▸ result_each_sampleHistory historyLength⟩
    failure := ⟨_, rfl, .empty⟩ }

theorem notBlank_sampleJid (i : Nat) : NotBlank (sampleJid i) := by
  have hprefix : Text.isBlank "jid-" = false := by decide
  rw [NotBlank, sampleJid, Text.isBlank_append, hprefix, Bool.false_and]

/-- The sample jobs are decoded one by one. -/
theorem result_each_sampleJobs (historyLength count : Int) :
    (Traced.each Job.ofJson (sampleJobs historyLength count)).result =
      .ok (decodedJobs historyLength count) := by
  rw [sampleJobs, decodedJobs, Traced.result_each_eq_ok_iff, List.forall₂_map_left_iff,
    List.forall₂_map_right_iff, List.forall₂_same]
  exact fun i _ => result_ofJson_sampleJob (notBlank_sampleJid i)

theorem result_listOfJson_sampleJobs (historyLength count : Int) :
    (Job.listOfJson "jobs" (.arr (sampleJobs historyLength count))).result =
      .ok (decodedJobs historyLength count) := by
  rw [Job.listOfJson, Json.list_arr]
  exact result_each_sampleJobs historyLength count

theorem result_ofJson_trackedDocument (historyLength count : Int) :
    (TrackedJobs.ofJson (Scenario.tracked.document historyLength count)).result =
      .ok ⟨decodedJobs historyLength count, ["gone-1", "gone-2"]⟩ := by
  refine TrackedJobs.result_ofJson_eq_ok_iff.mpr ⟨_, rfl, ?_, .inl rfl⟩
  exact Object.hasList_iff.mpr
    ⟨_, rfl, Json.list_arr ▸ result_each_sampleJobs historyLength count⟩

end Decoded

section Readable

/-- The times of a sample history are short enough to be read, the last one included. -/
def TimesFit (historyLength : Int) : Prop :=
  startTime + (max historyLength 1 - 1) < 10 ^ Json.maxDigits

theorem lt_digits_of_lt {i : Int} (h : i < 10 ^ 20) : i < 10 ^ Json.maxDigits :=
  lt_of_lt_of_le h (pow_le_pow_right₀ (by decide) (by decide))

/-- The times fit of every history whose length a machine word can hold. -/
theorem timesFit_of_lt {historyLength : Int} (h : historyLength < 2 ^ 63) :
    TimesFit historyLength := by
  refine lt_digits_of_lt ?_
  unfold startTime
  omega

variable {i level : Nat} {jid : String} {historyLength count : Int}

theorem readable_int_iff_lt {i : Int} (hi : 0 ≤ i) :
    (Json.int i).Readable level ↔ level ≤ Json.maxDepth ∧ i < 10 ^ Json.maxDigits := by
  have hdigits : 0 < Json.maxDigits := by decide
  have hcast : i.natAbs < 10 ^ Json.maxDigits ↔ i < 10 ^ Json.maxDigits := by
    rw [← Int.ofNat_lt, Int.natAbs_of_nonneg hi, Nat.cast_pow, Nat.cast_ofNat]
  rw [Json.readable_int_iff, Nat.length_toDigits_le_iff (by decide) hdigits, hcast]

theorem exists_sampleEntry (i : Nat) :
    ∃ what name value, sampleEvent i = sampleEntry what i name value ∧ name ≠ "what" ∧
      name ≠ "when" := by
  unfold sampleEvent
  split_ifs <;> exact ⟨_, _, _, rfl, by decide, by decide⟩

theorem readable_sampleEvent_iff (hlevel : level + 1 ≤ Json.maxDepth) :
    (sampleEvent i).Readable level ↔ startTime + (i : Int) < 10 ^ Json.maxDigits := by
  obtain ⟨what, name, value, hentry, hwhat, hwhen⟩ := exists_sampleEntry i
  have hnames : Object.names
      [("what", .str what), ("when", .int (startTime + (i : Int))), (name, .str value)] |>.Nodup := by
    simp [Object.names, Ne.symm hwhat, Ne.symm hwhen]
  rw [hentry, sampleEntry, Json.readable_obj_iff]
  simp only [List.forall_mem_cons, Json.readable_str_iff, readable_int_iff_lt (time_nonneg i)]
  constructor
  · rintro ⟨-, -, -, ⟨-, htime⟩, -⟩
    exact htime
  · intro htime
    exact ⟨by omega, hnames, hlevel, ⟨hlevel, htime⟩, hlevel, by simp⟩

/-- A sample history is readable if its last time is. -/
theorem readable_sampleHistory_iff (hlevel : level + 2 ≤ Json.maxDepth) :
    (Json.arr (sampleHistory historyLength)).Readable level ↔ TimesFit historyLength := by
  rw [Json.readable_arr_iff, sampleHistory, List.forall_mem_map, TimesFit]
  simp only [List.mem_range, readable_sampleEvent_iff hlevel]
  generalize (10 : Int) ^ Json.maxDigits = bound
  constructor
  · rintro ⟨-, htimes⟩
    have hlast := htimes ((max historyLength 1).toNat - 1) (by omega)
    omega
  · intro hlast
    exact ⟨by omega, fun i hi => by omega⟩

theorem readable_sampleJob_iff (hlevel : level + 3 ≤ Json.maxDepth) :
    (sampleJob jid historyLength).Readable level ↔ TimesFit historyLength := by
  have hdepth : level + 1 ≤ Json.maxDepth := by omega
  have htext : ∀ s, (Json.str s).Readable (level + 1) := fun s => Json.readable_str_iff.mpr hdepth
  have htexts : ∀ s, (Json.arr [.str s]).Readable (level + 1) := fun s =>
    Json.readable_arr_iff.mpr ⟨hdepth, List.forall_mem_singleton.mpr
      (Json.readable_str_iff.mpr (by omega))⟩
  have hbool : (Json.bool false).Readable (level + 1) := Json.readable_bool_iff.mpr hdepth
  have hsmall : ∀ i : Int, 0 ≤ i → i < 10 ^ 20 → (Json.int i).Readable (level + 1) :=
    fun i hi hlt => (readable_int_iff_lt hi).mpr ⟨hdepth, lt_digits_of_lt hlt⟩
  have hobject : (Json.obj []).Readable (level + 1) :=
    Json.readable_obj_iff.mpr ⟨hdepth, List.nodup_nil, by simp⟩
  have harray : (Json.arr []).Readable (level + 1) :=
    Json.readable_arr_iff.mpr ⟨hdepth, by simp⟩
  rw [sampleJob, Json.readable_obj_iff]
  simp only [List.forall_mem_cons]
  constructor
  · rintro ⟨-, -, -, -, -, -, hhistory, -⟩
    exact (readable_sampleHistory_iff hlevel).mp hhistory
  · intro htimes
    exact ⟨by omega, by simp [Object.names], hobject, harray, hsmall _ (by decide) (by decide),
      hobject, (readable_sampleHistory_iff hlevel).mpr htimes, htext _, htext _, htext _,
      hsmall _ (by decide) (by decide), htext _, hsmall _ (by decide) (by decide),
      hsmall _ (by decide) (by decide), hbool, htext _, htexts _, htexts _, hbool, htext _,
      by simp⟩

/-- The sample jobs are readable if there is none, or if the times of their histories fit. -/
theorem readable_sampleJobs_iff (hlevel : level + 4 ≤ Json.maxDepth) :
    (Json.arr (sampleJobs historyLength count)).Readable level ↔
      (0 < count → TimesFit historyLength) := by
  rw [Json.readable_arr_iff, sampleJobs, List.forall_mem_map]
  simp only [List.mem_range, readable_sampleJob_iff hlevel]
  constructor
  · rintro ⟨-, hjobs⟩ hcount
    exact hjobs 0 (by omega)
  · intro htimes
    exact ⟨by omega, fun i hi => htimes (by omega)⟩

namespace Scenario

/-- The integers of the sample document of a scenario are short enough to be read. -/
def Fits (historyLength count : Int) : Scenario → Prop
  | job | events => TimesFit historyLength
  | jobs | tracked => 0 < count → TimesFit historyLength

theorem fits_of_timesFit {s : Scenario} (h : TimesFit historyLength) : s.Fits historyLength count := by
  cases s with
  | job | events =>
      exact h
  | jobs | tracked =>
      exact fun _ => h

/-- The sample document of a scenario is readable exactly if its integers are. -/
theorem readable_document_iff (s : Scenario) :
    (s.document historyLength count).Readable 0 ↔ s.Fits historyLength count := by
  cases s with
  | job =>
      exact readable_sampleJob_iff (by decide)
  | jobs =>
      exact readable_sampleJobs_iff (by decide)
  | events =>
      exact readable_sampleHistory_iff (by decide)
  | tracked =>
      have hexpired : (Json.arr [.str "gone-1", .str "gone-2"]).Readable 1 := by
        refine Json.readable_arr_iff.mpr ⟨by decide, ?_⟩
        simp [Json.readable_str_iff, Json.maxDepth]
      have hjobs : (Json.arr (sampleJobs historyLength count)).Readable 1 ↔ _ :=
        readable_sampleJobs_iff (by decide)
      rw [document, Json.readable_obj_iff]
      simp only [List.forall_mem_cons, hjobs]
      constructor
      · rintro ⟨-, -, hfit, -⟩
        exact hfit
      · intro hfit
        exact ⟨by decide, by simp [Object.names], hfit, hexpired, by simp⟩

end Scenario

end Readable

section Distinct

variable {jid : String} {historyLength count : Int}

theorem distinct_sampleHistory : (Json.arr (sampleHistory historyLength)).Distinct := by
  rw [Json.distinct_arr_iff, sampleHistory, List.forall_mem_map]
  intro i _
  obtain ⟨what, name, value, hentry, hwhat, hwhen⟩ := exists_sampleEntry i
  rw [hentry, sampleEntry, Json.distinct_obj_iff]
  simp [Object.names, Ne.symm hwhat, Ne.symm hwhen, Json.Distinct]

theorem distinct_sampleJob : (sampleJob jid historyLength).Distinct := by
  have hhistory : Json.DistinctItems (sampleHistory historyLength) := distinct_sampleHistory
  rw [sampleJob, Json.distinct_obj_iff]
  simp [Object.names, hhistory, Json.Distinct, Json.DistinctItems, Json.DistinctMembers]

theorem distinct_sampleJobs : (Json.arr (sampleJobs historyLength count)).Distinct := by
  rw [Json.distinct_arr_iff, sampleJobs, List.forall_mem_map]
  exact fun i _ => distinct_sampleJob

/-- No object in a sample document has two members of one name. -/
theorem Scenario.distinct_document (s : Scenario) :
    (s.document historyLength count).Distinct := by
  cases s with
  | job =>
      exact distinct_sampleJob
  | jobs =>
      exact distinct_sampleJobs
  | events =>
      exact distinct_sampleHistory
  | tracked =>
      have hjobs : Json.DistinctItems (sampleJobs historyLength count) := distinct_sampleJobs
      rw [document, Json.distinct_obj_iff]
      simp [Object.names, hjobs, Json.Distinct, Json.DistinctItems]

end Distinct

end Bench
end JobWire
