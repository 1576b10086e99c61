import JobWire.Proofs.Codec
import JobWire.Proofs.Job.RoundTrip

/-!
# Records inside larger ones

A record that was decoded is decoded again from its own bytes.  Put into a larger record it lies
deeper, and reading has a limit on depth: so it is decoded again from the bytes of the larger record
exactly if its own value leaves room for the levels around it.

**Results.**
* `Json.readable_iff_of_readable`: a readable value is readable deeper down if there is room for it.
* `Job.depth_toJson_le_iff`: how deep a job lies, by its events.
* `Job.result_decode_encoded_iff`: which jobs are decoded from their own bytes.
* `result_decode_encoded_singleton_iff`, `result_decode_encoded_tracked_iff`: when a job is decoded
  again inside a list, and among the tracked jobs.
* `nested_decode_encoded_iff_room`: these and a job with a decoded event in its history.
-/

namespace JobWire

namespace Json

variable {v : Json} {level : Nat}

/-- A readable value is readable at any level that leaves room for its own. -/
theorem readable_iff_of_readable (h : v.Readable 0) :
    v.Readable level ↔ level + v.depth ≤ maxDepth :=
  ⟨Readable.depth, fun hroom => ⟨h.distinct, h.integersFit, hroom⟩⟩

theorem depth_ofStrings_le (texts : List String) : (ofStrings texts).depth ≤ 1 := by
  rw [ofStrings, depth_arr_le_iff]
  intro v hv
  obtain ⟨_, -, rfl⟩ := List.mem_map.mp hv
  exact Nat.le_refl 1

theorem distinct_ofStrings (texts : List String) : (ofStrings texts).Distinct := by
  rw [ofStrings, distinct_arr_iff]
  intro v hv
  obtain ⟨_, -, rfl⟩ := List.mem_map.mp hv
  exact trivial

end Json

theorem Failure.depth_toJson_le (failure : Option Failure) : (toJson failure).depth ≤ 1 := by
  cases failure with
  | none =>
      exact Nat.zero_le 1
  | some f =>
      rw [toJson, Json.depth_obj_le_iff]
      simp [Json.depth]

theorem Failure.distinct_toJson (failure : Option Failure) : (toJson failure).Distinct := by
  cases failure with
  | none =>
      exact Json.distinct_obj_iff.mpr ⟨List.nodup_nil, by simp⟩
  | some f =>
      simp [toJson, Json.distinct_obj_iff, Object.names, Json.Distinct]

/-- No object in the value of a valid event has two members of one name. -/
theorem Event.distinct_toJson {e : Event} (h : e.Valid) : e.toJson.Distinct := by
  refine Json.distinct_obj_iff.mpr ⟨nodup_names_members h, List.forall_mem_append.mpr ⟨?_, ?_⟩⟩
  · simp [EventHeader.members, Json.Distinct]
  · cases e with
    | put _ _ | popped _ _ | done _ | failed _ _ _ | failedRetries _ _ | throttled _ _
    | timedOut _ =>
        simp [ownMembers, Json.Distinct]
    | log what time extras =>
        intro m hm
        obtain ⟨x, -, hvalue⟩ := List.mem_filterMap.mp hm
        obtain ⟨v, hparse, rfl⟩ := Option.map_eq_some_iff.mp hvalue
        exact (Json.readable_of_parse hparse).distinct

namespace Job

variable {j : Job}

/-- No object in the value of a valid job has two members of one name. -/
theorem distinct_toJson (h : j.Valid) : j.toJson.Distinct := by
  have hhistory : (Json.arr (j.history.map Event.toJson)).Distinct := by
    rw [Json.distinct_arr_iff]
    exact List.forall_mem_map.mpr fun e he => Event.distinct_toJson (h.history e he)
  have hparent : (j.spawnedFrom.elim .null .str : Json).Distinct := by
    cases j.spawnedFrom <;> exact trivial
  refine Json.distinct_obj_iff.mpr ⟨by simp [Object.names], ?_⟩
  simp only [List.forall_mem_cons]
  exact ⟨trivial, Json.distinct_ofStrings _, Json.distinct_ofStrings _, trivial,
    Failure.distinct_toJson _, hhistory, trivial, trivial, trivial, trivial, trivial, trivial,
    hparent, trivial, Json.distinct_ofStrings _, Json.distinct_ofStrings _, trivial, trivial,
    by simp⟩

/-- The value of a job lies two levels above the values of its events, and nothing else in it is
nested more than twice. -/
theorem depth_toJson_le_iff {k : Nat} (hk : 2 ≤ k) :
    j.toJson.depth ≤ k ↔ ∀ e ∈ j.history, e.toJson.depth + 2 ≤ k := by
  have hhistory : (Json.arr (j.history.map Event.toJson)).depth + 1 ≤ k ↔
      ∀ e ∈ j.history, e.toJson.depth + 2 ≤ k := by
    obtain ⟨n, rfl⟩ : ∃ n, k = n + 1 := ⟨k - 1, by omega⟩
    rw [Nat.add_le_add_iff_right, Json.depth_arr_le_iff, List.forall_mem_map]
    exact forall₂_congr fun e _ => by omega
  have hscalar : 0 + 1 ≤ k := by omega
  have hstrings : ∀ texts, (Json.ofStrings texts).depth + 1 ≤ k := by
    intro texts
    have := Json.depth_ofStrings_le texts
    omega
  have hfailure : (Failure.toJson j.failure).depth + 1 ≤ k := by
    have := Failure.depth_toJson_le j.failure
    omega
  have hparent : (j.spawnedFrom.elim .null .str : Json).depth + 1 ≤ k := by
    cases j.spawnedFrom <;> exact hscalar
  rw [toJson, Json.depth_obj_le_iff]
  simp only [List.forall_mem_cons]
  constructor
  · rintro ⟨-, -, -, -, -, hlevels, -⟩
    exact hhistory.mp hlevels
  · intro hevents
    exact ⟨hscalar, hstrings _, hstrings _, hscalar, hfailure, hhistory.mpr hevents, hscalar,
      hscalar, hscalar, hscalar, hscalar, hscalar, hparent, hscalar, hstrings _, hstrings _,
      hscalar, hscalar, by simp⟩

/-- A valid job is decoded from its own bytes if and only if its events are canonical and not nested
too deep, and its integers are not too long. -/
theorem result_decode_encoded_iff (h : j.Valid) :
    (decode Job (encoded j)).result = .ok j ↔
      (∀ e ∈ j.history, e.Canonical ∧ e.toJson.depth + 2 ≤ Json.maxDepth) ∧
        j.toJson.integersFit = true := by
  have hdistinct := distinct_toJson h
  have hread := result_ofJson_toJson_iff h
  have hdepth : j.toJson.depth ≤ Json.maxDepth ↔
      ∀ e ∈ j.history, e.toJson.depth + 2 ≤ Json.maxDepth := depth_toJson_le_iff (by decide)
  have hreadable : j.toJson.Readable 0 ↔
      j.toJson.integersFit = true ∧ j.toJson.depth ≤ Json.maxDepth := by
    constructor
    · intro hr
      have := hr.depth
      exact ⟨hr.integersFit, by omega⟩
    · rintro ⟨hfit, hroom⟩
      exact ⟨hdistinct, hfit, by omega⟩
  have hdecode : (decode Job (encoded j)).result = .ok j ↔
      j.toJson.Readable 0 ∧ (ofJson j.toJson).result = .ok j :=
    JobWire.result_decode_encoded_iff hdistinct
  rw [hdecode, hreadable, hread, hdepth]
  constructor
  · rintro ⟨⟨hfit, hroom⟩, hcanonical⟩
    exact ⟨fun e he => ⟨hcanonical e he, hroom e he⟩, hfit⟩
  · rintro ⟨hevents, hfit⟩
    exact ⟨⟨hfit, fun e he => (hevents e he).2⟩, fun e he => (hevents e he).1⟩

end Job

section Wrapped

variable {j : Job}

/-- A job that leaves room for one more level is read back inside a list. -/
theorem result_decode_encoded_singleton_iff (hreadable : j.toJson.Readable 0)
    (hread : (Job.ofJson j.toJson).result = .ok j) :
    (decode (List Job) (encoded [j])).result = .ok [j] ↔
      j.toJson.depth + 1 ≤ Json.maxDepth := by
  have hlist : (Json.arr [j.toJson]).Readable 0 ↔ j.toJson.depth + 1 ≤ Json.maxDepth := by
    rw [Json.readable_arr_iff, List.forall_mem_singleton, Json.readable_iff_of_readable hreadable]
    omega
  have hback : ((Json.arr [j.toJson]).list "jobs" Job.ofJson).result = .ok [j] :=
    Json.result_list_map_iff.mpr (List.forall_mem_singleton.mpr hread)
  have hdistinct : (Json.arr [j.toJson]).Distinct :=
    Json.distinct_arr_iff.mpr (List.forall_mem_singleton.mpr hreadable.distinct)
  exact (result_decode_encoded_self_iff hdistinct hback).trans hlist

/-- A job that leaves room for two more levels is read back among the tracked jobs. -/
theorem result_decode_encoded_tracked_iff (hreadable : j.toJson.Readable 0)
    (hread : (Job.ofJson j.toJson).result = .ok j) :
    (decode TrackedJobs (encoded (TrackedJobs.mk [j] []))).result = .ok (TrackedJobs.mk [j] []) ↔
      j.toJson.depth + 2 ≤ Json.maxDepth := by
  have htracked : (TrackedJobs.mk [j] []).toJson.Readable 0 ↔
      j.toJson.depth + 2 ≤ Json.maxDepth := by
    constructor
    · intro h
      obtain ⟨-, -, hmembers⟩ := Json.readable_obj_iff.mp h
      have hjobs := hmembers ("jobs", .arr [j.toJson]) List.mem_cons_self
      have hjob := (Json.readable_arr_iff.mp hjobs).2 j.toJson List.mem_cons_self
      have := hjob.depth
      omega
    · intro hroom
      have hjob : j.toJson.Readable 2 :=
        (Json.readable_iff_of_readable hreadable).mpr (by omega)
      have hjobs : (Json.arr [j.toJson]).Readable 1 :=
        Json.readable_arr_iff.mpr ⟨by decide, List.forall_mem_singleton.mpr hjob⟩
      have hempty : (Json.ofStrings []).Readable 1 :=
        Json.readable_arr_iff.mpr ⟨by decide, by simp⟩
      exact Json.readable_obj_iff.mpr ⟨Nat.zero_le _, by simp [Object.names],
        List.forall_mem_cons.mpr ⟨hjobs, List.forall_mem_singleton.mpr hempty⟩⟩
  have hback : (TrackedJobs.ofJson (TrackedJobs.mk [j] []).toJson).result =
      .ok (TrackedJobs.mk [j] []) :=
    TrackedJobs.result_ofJson_toJson (List.forall_mem_singleton.mpr hread)
  have hdistinct : (TrackedJobs.mk [j] []).toJson.Distinct := by
    have hjobs : (Json.arr [j.toJson]).Distinct :=
      Json.distinct_arr_iff.mpr (List.forall_mem_singleton.mpr hreadable.distinct)
    exact Json.distinct_obj_iff.mpr ⟨by simp [Object.names], List.forall_mem_cons.mpr
      ⟨hjobs, List.forall_mem_singleton.mpr (Json.distinct_ofStrings [])⟩⟩
  exact (result_decode_encoded_self_iff hdistinct hback).trans htracked

end Wrapped

/-- A record that was decoded is decoded again inside a larger one if and only if there is room for
it: a job inside a list and among the tracked jobs, and an event in the history of a valid job whose
other events are read back. -/
theorem nested_decode_encoded_iff_room (d : Document) :
    (∀ j : Job, (decode Job d).result = .ok j →
      ((decode (List Job) (encoded [j])).result = .ok [j] ↔
        j.toJson.depth + 1 ≤ Json.maxDepth) ∧
      ((decode TrackedJobs (encoded (TrackedJobs.mk [j] []))).result =
          .ok (TrackedJobs.mk [j] []) ↔
        j.toJson.depth + 2 ≤ Json.maxDepth)) ∧
    ∀ e : Event, (decode Event d).result = .ok e → ∀ j : Job, j.Valid → e ∈ j.history →
      ((decode Job (encoded j)).result = .ok j ↔
        e.toJson.depth + 2 ≤ Json.maxDepth ∧
        (∀ other ∈ j.history, other ≠ e →
          other.Canonical ∧ other.toJson.depth + 2 ≤ Json.maxDepth) ∧
        j.toJson.integersFit = true) := by
  constructor
  · intro j h
    have hreadable : j.toJson.Readable 0 := Wire.stable_job.readable_of_decode h
    have hback := Wire.stable_job.readBack_of_decode h
    exact ⟨result_decode_encoded_singleton_iff hreadable hback,
      result_decode_encoded_tracked_iff hreadable hback⟩
  · intro e h j hvalid hmem
    obtain ⟨v, hv, hread⟩ := result_decode_eq_ok_iff.mp h
    have hcanonical := Event.canonical_of_ofJson (readable_of_document hv) hread
    rw [Job.result_decode_encoded_iff hvalid]
    constructor
    · rintro ⟨hevents, hfit⟩
      exact ⟨(hevents e hmem).2, fun other hother _ => hevents other hother, hfit⟩
    · rintro ⟨hroom, hothers, hfit⟩
      refine ⟨fun other hother => ?_, hfit⟩
      by_cases hsame : other = e
      · exact hsame ▸ ⟨hcanonical, hroom⟩
      · exact hothers other hother hsame

/-- The sample job, and its log event inside it, leave room enough. -/
theorem nested_decode_encoded_failedSample :
    (decode (List Job) (encoded [Job.failedSample])).result = .ok [Job.failedSample] ∧
      (decode TrackedJobs (encoded (TrackedJobs.mk [Job.failedSample] []))).result =
        .ok (TrackedJobs.mk [Job.failedSample] []) ∧
      (decode Job (encoded Job.failedSample)).result = .ok Job.failedSample := by
  have hevent : (decode Event (encoded (Event.log "note" 1 [("text", "[NaN]")]))).result =
      .ok (Event.log "note" 1 [("text", "[NaN]")]) := by decide +kernel
  have hvalid : Job.failedSample.Valid := Job.constructed_failedSample.valid
  have hjob : (decode Job (encoded Job.failedSample)).result = .ok Job.failedSample :=
    ((nested_decode_encoded_iff_room _).2 _ hevent _ hvalid (by decide)).mpr (by decide +kernel)
  obtain ⟨hlist, htracked⟩ := (nested_decode_encoded_iff_room _).1 _ hjob
  exact ⟨hlist.mpr (by decide +kernel), htracked.mpr (by decide +kernel), hjob⟩

section Deep

/-- Arrays inside one another, down to the given depth. -/
def Json.nested : Nat → Json
  | 0 => .arr []
  | n + 1 => .arr [nested n]

/-- A log event with a property of the given depth. -/
def Event.deep (n : Nat) : Event :=
  .log "x" 0 [("a", (Json.nested n).render)]

/-- A job with a deep event in its history. -/
def Job.deep (n : Nat) : Job :=
  { Job.failedSample with history := [Event.deep n] }

variable {n level : Nat}

theorem Json.depth_nested : (Json.nested n).depth = n := by
  induction n with
  | zero =>
      rfl
  | succ n ih =>
      simp [Json.nested, Json.depth, Json.depthItems, ih]

theorem Json.readable_nested (h : level + n ≤ Json.maxDepth) :
    (Json.nested n).Readable level := by
  induction n generalizing level with
  | zero =>
      exact Json.readable_arr_iff.mpr ⟨h, by simp⟩
  | succ n ih =>
      exact Json.readable_arr_iff.mpr
        ⟨by omega, List.forall_mem_singleton.mpr (ih (by omega))⟩

theorem Event.toJson_deep (h : n ≤ Json.maxDepth) :
    (Event.deep n).toJson =
      .obj [("what", .str "x"), ("when", .int 0), ("a", Json.nested n)] := by
  have hmembers : ∀ m ∈ ([("a", Json.nested n)] : Object), m.2.Readable 0 :=
    List.forall_mem_singleton.mpr (Json.readable_nested (by omega))
  have hextras : extraMembers [("a", (Json.nested n).render)] = [("a", Json.nested n)] :=
    extraMembers_texts hmembers
  rw [Event.deep, toJson, ownMembers, hextras]
  rfl

theorem Event.depth_toJson_deep (h : n ≤ Json.maxDepth) : (Event.deep n).toJson.depth = n + 1 := by
  rw [Event.toJson_deep h]
  simp [Json.depth, Json.depthMembers, Json.depth_nested]

theorem Event.canonical_deep (h : n ≤ Json.maxDepth) : (Event.deep n).Canonical := by
  have hreadable : (Json.nested n).Readable 0 := Json.readable_nested (by omega)
  exact List.forall_mem_singleton.mpr (canonicalText_render hreadable)

theorem Event.valid_deep (h : n ≤ Json.maxDepth) : (Event.deep n).Valid := by
  have hparse := Json.parse_render_of_readable (Json.readable_nested (n := n) (by omega))
  refine ⟨by decide, by decide, by simp [reservedNames], by simp, ?_⟩
  rw [List.forall_mem_singleton, hparse]
  rfl

theorem Job.valid_deep (h : n ≤ Json.maxDepth) : (Job.deep n).Valid :=
  { Job.constructed_failedSample.valid with
    history := List.forall_mem_singleton.mpr (Event.valid_deep h) }

theorem Job.integersFit_toJson_deep (h : n ≤ Json.maxDepth) :
    (Job.deep n).toJson.integersFit = true := by
  have hnested : (Json.nested n).Readable 0 := Json.readable_nested (by omega)
  have hevent : (Event.deep n).toJson.integersFit = true := by
    rw [Event.toJson_deep h, Json.integersFit_obj_iff]
    simp only [List.forall_mem_cons]
    exact ⟨rfl, by decide, hnested.integersFit, by simp⟩
  have hzero : (Json.int 0).integersFit = true := by decide
  have hremaining : (Json.int (-1)).integersFit = true := by decide
  have hfailure : (Failure.toJson Job.failedSample.failure).integersFit = true := by decide
  have hhistory : (Json.arr [(Event.deep n).toJson]).integersFit = true :=
    Json.integersFit_arr_iff.mpr (List.forall_mem_singleton.mpr hevent)
  rw [toJson, Json.integersFit_obj_iff]
  simp only [List.forall_mem_cons]
  exact ⟨rfl, rfl, rfl, hzero, hfailure, hhistory, rfl, rfl, hzero, rfl, hremaining, hzero, rfl,
    rfl, rfl, rfl, rfl, rfl, by simp⟩

/-- A deep job is decoded from its own bytes if there is room for the levels around its innermost
array. -/
theorem Job.result_decode_encoded_deep_iff (h : n ≤ Json.maxDepth) :
    (decode Job (encoded (Job.deep n))).result = .ok (Job.deep n) ↔ n + 3 ≤ Json.maxDepth := by
  rw [Job.result_decode_encoded_iff (Job.valid_deep h)]
  have hhistory : (Job.deep n).history = [Event.deep n] := rfl
  rw [hhistory, List.forall_mem_singleton, Event.depth_toJson_deep h,
    and_iff_right (Event.canonical_deep h), and_iff_left (Job.integersFit_toJson_deep h)]

/-- A job that is decoded from its own bytes, and not from those of the list of it. -/
theorem deep_job_lost_in_list :
    (decode Job (encoded (Job.deep 197))).result = .ok (Job.deep 197) ∧
      (decode (List Job) (encoded [Job.deep 197])).result ≠ .ok [Job.deep 197] := by
  have hjob := (Job.result_decode_encoded_deep_iff (n := 197) (by decide)).mpr (by decide)
  refine ⟨hjob, fun hlist => ?_⟩
  have hreadable : (Job.deep 197).toJson.Readable 0 := Wire.stable_job.readable_of_decode hjob
  have hback := Wire.stable_job.readBack_of_decode hjob
  have hroom := (result_decode_encoded_singleton_iff hreadable hback).mp hlist
  have hevents := (Job.depth_toJson_le_iff (k := 199) (by decide)).mp
    (Nat.le_of_add_le_add_right hroom)
  have hdepth := hevents (Event.deep 197) (List.mem_singleton_self _)
  rw [Event.depth_toJson_deep (by decide)] at hdepth
  omega

end Deep

end JobWire
