import JobWire.Proofs.Event.Verdict
import JobWire.Proofs.Job.Reading

/-!
# The grammars of jobs and failures

A job is read in another order than its properties are declared in, and its constraints are looked
at in the order of its fields.  So of several faults in one object the one that is reported is fixed
by three lists, whatever the order in which the object was written.

A queue, a worker and an expiry are never refused: what they could be refused for is read as their
absence.

**Results.**
* `Failure.governs`, `Job.governs`: failures and jobs are decoded by their grammars.
* `Failure.result_ofJson_eq_iff`: what is reported of a value that is to be a failure, or none.
* `Job.result_ofJson_eq_iff_verdict`: what is reported of a value that is to be a job, for every
  value, and what no refusal of it names.
-/

namespace JobWire

namespace Failure

/-- What a failure is decoded from. -/
def grammar : Grammar Failure where
  record := "JobFailure"
  shape := shape
  readers :=
    [.kind "group" .string, .kind "message" .string, .kind "when" .integer, .kind "worker" .string]
  rules :=
    [.text "group" Failure.group,
      .text "message" Failure.message,
      .positive "when" Failure.time,
      .text "worker_name" Failure.worker]
  ReadFrom o f := f.ReadFrom o

theorem governs : grammar.Governs (fun o => liftM (draft o)) FailureDraft.build where
  errorOf?_draft h := by
    have hvalue : ∀ {name}, name ∈ shape.names → ∃ v, Object.get? _ name = some v :=
      fun hname => h.exists_value hname
    simp only [Traced.result_lift, draft, grammar, ← Reader.of_asString, ← Reader.of_asInt]
    refine Reader.errorOf?_read_bind (hvalue (by simp [shape])) fun _ => ?_
    refine Reader.errorOf?_read_bind (hvalue (by simp [shape])) fun _ => ?_
    refine Reader.errorOf?_read_bind (hvalue (by simp [shape])) fun _ => ?_
    exact Reader.errorOf?_read_bind (hvalue (by simp [shape])) fun _ => rfl
  exists_readFrom h := by
    simp only [Traced.result_lift, draft, bind_eq_ok_iff, Object.string_eq_ok_iff,
      Object.int_eq_ok_iff] at h
    obtain ⟨group, hgroup, message, hmessage, time, htime, worker, hworker, -⟩ := h
    exact ⟨⟨group, message, time, worker⟩, ⟨hgroup, hmessage, htime, hworker⟩⟩
  exists_draft {o f} h := by
    refine ⟨f.fields, draft_eq_ok_iff.mpr h, ?_⟩
    refine Grammar.ensure_bind_eq_judge ?_ rfl rfl
    refine Grammar.ensure_bind_eq_judge ?_ rfl rfl
    refine Grammar.ensure_bind_eq_judge ?_ rfl rfl
    refine Grammar.ensure_bind_eq_judge ?_ rfl rfl
    rfl

theorem direct_readers : ∀ r ∈ grammar.readers, r.Direct := by
  simp only [grammar, List.forall_mem_cons]
  exact ⟨Reader.direct_kind, Reader.direct_kind, Reader.direct_kind, Reader.direct_kind, by simp⟩

/-- A failure that is there is decoded by its grammar. -/
theorem result_ofJson_cons {m : String × Json} {ms : Object} :
    (ofJson (.obj (m :: ms))).result =
      (grammar.decode (fun o => liftM (draft o)) FailureDraft.build
        (.obj (m :: ms))).result.map some := by
  have hrun : ofJson (.obj (m :: ms)) =
      grammar.decode (fun o => liftM (draft o)) FailureDraft.build (.obj (m :: ms)) >>=
        fun f => pure (some f) := by
    simp only [Grammar.decode, bind_assoc]
    rfl
  rw [hrun, Traced.result_bind]
  cases (grammar.decode (fun o => liftM (draft o)) FailureDraft.build (.obj (m :: ms))).result <;>
    rfl

/-- What is reported of a value that is to be a failure, or to stand for the absence of one. -/
inductive Verdict : Json → Decoded (Option Failure) → Prop
  | null : Verdict .null (.ok none)
  | empty : Verdict (.obj []) (.ok none)
  | notObject {v : Json} :
      v ≠ .null →
      (∀ o, v ≠ .obj o) →
      Verdict v (.error (v.wrongShape "failure" "object"))
  | judged {m : String × Json} {ms : Object} {r : Decoded Failure} :
      grammar.Verdict (.obj (m :: ms)) r →
      Verdict (.obj (m :: ms)) (r.map some)

theorem exists_verdict (v : Json) : ∃ r, Verdict v r := by
  cases v with
  | obj members =>
      cases members with
      | nil =>
          exact ⟨_, .empty⟩
      | cons m ms =>
          obtain ⟨r, hr⟩ := governs.exists_verdict (.obj (m :: ms))
          exact ⟨_, .judged hr⟩
  | null =>
      exact ⟨_, .null⟩
  | bool _ | int _ | float _ | str _ | arr _ =>
      exact ⟨_, .notObject nofun nofun⟩

theorem result_ofJson_of_verdict {v : Json} {r : Decoded (Option Failure)} (h : Verdict v r) :
    (ofJson v).result = r := by
  cases h with
  | null | empty =>
      rfl
  | notObject hnull hobject =>
      cases v with
      | null =>
          exact absurd rfl hnull
      | obj o =>
          exact absurd rfl (hobject o)
      | bool _ | int _ | float _ | str _ | arr _ =>
          rfl
  | judged hverdict =>
      rw [result_ofJson_cons, governs.result_eq_iff.mpr hverdict]

/-- What is reported of a value that is to be a failure is its verdict. -/
theorem result_ofJson_eq_iff {v : Json} {r : Decoded (Option Failure)} :
    (ofJson v).result = r ↔ Verdict v r :=
  eq_iff_of_total (exists_verdict v) result_ofJson_of_verdict

/-- Where a refusal of a failure is reported. -/
theorem location_of_ofJson {v : Json} {i : Invalid}
    (h : (ofJson v).result = .error (.invalid i)) :
    i.record = "JobFailure" ∧ i.location ∈ ["group", "message", "when", "worker_name"] := by
  cases v with
  | obj members =>
      cases members with
      | nil =>
          cases h
      | cons m ms =>
          rw [result_ofJson_cons] at h
          cases hrun : (grammar.decode (fun o => liftM (draft o)) FailureDraft.build
              (.obj (m :: ms))).result with
          | ok f =>
              rw [hrun] at h
              cases h
          | error e =>
              rw [hrun] at h
              cases h
              have hverdict := governs.result_eq_iff.mp hrun
              rcases hverdict.location_mem with hplace | ⟨r, hr, w, hfault⟩
              · exact hplace
              · exact absurd hfault (direct_readers r hr w i)
  | null | bool _ | int _ | float _ | str _ | arr _ =>
      cases h

end Failure

namespace Job

/-- The reader of the worker of a job, which may be null. -/
def workerReader : Reader where
  property := "worker"
  faultOf?
    | .null | .str _ => none
    | v => some (v.wrongShape "worker" "string")

/-- The reader of the parent of a job, which may be null or false. -/
def parentReader : Reader where
  property := "spawned_from_jid"
  faultOf?
    | .null | .bool false | .str _ => none
    | v => some (v.wrongShape "spawned_from_jid" "string or false")

/-- The reader of the history of a job. -/
def historyReader : Reader where
  property := "history"
  faultOf? := Json.listFault? "history" fun w => errorOf? (Event.ofJson w).result

/-- The readers of a job, in the order in which its properties are read. -/
def readers : List Reader :=
  [.kind "jid" .string,
    .kind "klass" .string,
    .kind "data" .string,
    .kind "queue" .string,
    workerReader,
    .kind "state" .string,
    .kind "priority" .integer,
    .kind "remaining" .integer,
    .kind "retries" .integer,
    .kind "expires" .integer,
    .kind "tracked" .boolean,
    parentReader,
    .items "dependencies" .string "an array of strings",
    .items "dependents" .string "an array of strings",
    .items "tags" .string "an array of strings",
    .items "throttles" .string "an array of strings",
    historyReader,
    .of "failure" fun v => (Failure.ofJson v).result]

/-- The rule that the remaining attempts lie between minus one and the retries. -/
def remainingRule : Rule Job where
  location := "Job"
  violation? j :=
    if -1 ≤ j.remaining ∧ j.remaining ≤ j.retries then none
    else if j.remaining < -1 then some .remainingTooLow
    else some (.remainingAboveRetries j.retries)

/-- The rules of a job, in the order of its fields, and then the rule on the remaining attempts. -/
def rules : List (Rule Job) :=
  [.text "jid" Job.jid,
    .text "class_name" Job.className,
    .text "data" Job.data,
    .text "state" Job.state,
    .nonNegative "priority" Job.priority,
    .nonNegative "retries" Job.retries,
    .optionalText "spawned_from_jid" Job.spawnedFrom,
    .texts "dependencies" Job.dependencies,
    .texts "dependents" Job.dependents,
    .texts "tags" Job.tags,
    .texts "throttles" Job.throttles,
    remainingRule]

/-- What a job is decoded from. -/
def grammar : Grammar Job where
  record := "Job"
  shape := shape
  readers := readers
  rules := rules
  ReadFrom o j := j.ReadFrom o

section Placeholders

variable {o : Object} {j : Job} {s : String} {v : Json}

theorem noneOrNotBlank_ite : NoneOrNotBlank (if NotBlank s then some s else none) := by
  intro t ht
  split_ifs at ht with hblank
  · cases ht
    exact hblank
  · cases ht

theorem WorkerOf.noneOrNotBlank {worker : Option String} (h : WorkerOf v worker) :
    NoneOrNotBlank worker := by
  cases h with
  | null | blank _ =>
      simp [NoneOrNotBlank]
  | worker hworker =>
      simpa [NoneOrNotBlank] using hworker

theorem ReadFrom.queue_ok (h : j.ReadFrom o) : NoneOrNotBlank j.queue := by
  obtain ⟨s, -, hs⟩ := h.queue
  exact hs ▸ noneOrNotBlank_ite

theorem ReadFrom.worker_ok (h : j.ReadFrom o) : NoneOrNotBlank j.worker := by
  obtain ⟨_, -, hworker⟩ := h.worker
  exact hworker.noneOrNotBlank

theorem ReadFrom.expires_ok (h : j.ReadFrom o) : ∀ e ∈ j.expires, 0 < e := by
  obtain ⟨i, -, hi⟩ := h.expires
  intro e he
  rw [hi] at he
  split_ifs at he with hpositive
  · cases he
    exact hpositive
  · cases he

end Placeholders

section Rounds

variable {o : Object} {j : Job}

theorem of_asOptionalString : .of "worker" (Json.asOptionalString "worker") = workerReader :=
  congrArg (Reader.mk "worker") (funext fun v => by cases v <;> rfl)

theorem of_parent : .of "spawned_from_jid" parent = parentReader := by
  refine congrArg (Reader.mk "spawned_from_jid") (funext fun v => ?_)
  cases v with
  | bool b =>
      cases b <;> rfl
  | null | int _ | float _ | str _ | arr _ | obj _ =>
      rfl

theorem of_history :
    (.of "history" fun v => (v.list "history" Event.ofJson).result) = historyReader :=
  congrArg (Reader.mk "history") (funext (Json.errorOf?_list fun _ => rfl))

/-- The readers of a job are those of the code. -/
theorem readers_eq : readers =
    [.of "jid" (Json.asString "jid"),
      .of "klass" (Json.asString "klass"),
      .of "data" (Json.asString "data"),
      .of "queue" (Json.asString "queue"),
      .of "worker" (Json.asOptionalString "worker"),
      .of "state" (Json.asString "state"),
      .of "priority" (Json.asInt "priority"),
      .of "remaining" (Json.asInt "remaining"),
      .of "retries" (Json.asInt "retries"),
      .of "expires" (Json.asInt "expires"),
      .of "tracked" (Json.asBool "tracked"),
      .of "spawned_from_jid" parent,
      .of "dependencies" fun v =>
        (v.list "dependencies" (Json.stringElement "dependencies")).result,
      .of "dependents" fun v => (v.list "dependents" (Json.stringElement "dependents")).result,
      .of "tags" fun v => (v.list "tags" (Json.stringElement "tags")).result,
      .of "throttles" fun v => (v.list "throttles" (Json.stringElement "throttles")).result,
      .of "history" fun v => (v.list "history" Event.ofJson).result,
      .of "failure" fun v => (Failure.ofJson v).result] := by
  simp only [readers, Reader.of_asString, Reader.of_asInt, Reader.of_asBool, Reader.of_strings,
    of_asOptionalString, of_parent, of_history]

theorem errorOf?_draft (h : shape.Fits o) :
    errorOf? (draft o).result = readers.findSome? fun r => r.fault? o := by
  have hvalue : ∀ {name}, name ∈ shape.names → ∃ v, o.get? name = some v :=
    fun hname => h.exists_value hname
  simp only [draft, Traced.result_bind, Traced.result_lift, Object.result_strings,
    Object.result_list, readers_eq]
  refine Reader.errorOf?_read_bind (hvalue (by simp [shape])) fun _ => ?_
  refine Reader.errorOf?_read_bind (hvalue (by simp [shape])) fun _ => ?_
  refine Reader.errorOf?_read_bind (hvalue (by simp [shape])) fun _ => ?_
  refine Reader.errorOf?_read_bind (hvalue (by simp [shape])) fun _ => ?_
  refine Reader.errorOf?_read_bind (hvalue (by simp [shape])) fun _ => ?_
  refine Reader.errorOf?_read_bind (hvalue (by simp [shape])) fun _ => ?_
  refine Reader.errorOf?_read_bind (hvalue (by simp [shape])) fun _ => ?_
  refine Reader.errorOf?_read_bind (hvalue (by simp [shape])) fun _ => ?_
  refine Reader.errorOf?_read_bind (hvalue (by simp [shape])) fun _ => ?_
  refine Reader.errorOf?_read_bind (hvalue (by simp [shape])) fun _ => ?_
  refine Reader.errorOf?_read_bind (hvalue (by simp [shape])) fun _ => ?_
  refine Reader.errorOf?_value_bind (hvalue (by simp [shape])) fun _ => ?_
  refine Reader.errorOf?_read_bind (hvalue (by simp [shape])) fun _ => ?_
  refine Reader.errorOf?_read_bind (hvalue (by simp [shape])) fun _ => ?_
  refine Reader.errorOf?_read_bind (hvalue (by simp [shape])) fun _ => ?_
  refine Reader.errorOf?_read_bind (hvalue (by simp [shape])) fun _ => ?_
  refine Reader.errorOf?_read_bind (hvalue (by simp [shape])) fun _ => ?_
  exact Reader.errorOf?_value_bind (hvalue (by simp [shape])) fun _ => rfl

theorem exists_readFrom {d : JobDraft} (h : (draft o).result = .ok d) :
    ∃ j : Job, j.ReadFrom o := by
  simp only [draft, Traced.result_bind_eq_ok_iff, Traced.result_lift,
    Object.string_eq_ok_iff, Object.int_eq_ok_iff, Object.bool_eq_ok_iff, Object.value_eq_ok_iff,
    optionalString_eq_ok_iff, parent_eq_ok_iff, Object.result_strings_eq_ok_iff,
    ← Object.hasList_iff_result, Failure.result_ofJson_eq_ok_iff] at h
  obtain ⟨jid, hjid, className, hclass, data, hdata, queue, hqueue, worker, hworker, state, hstate,
    priority, hpriority, remaining, hremaining, retries, hretries, expires, hexpires,
    tracked, htracked, _, hspawned, spawnedFrom, hparent, dependencies, hdependencies,
    dependents, hdependents, tags, htags, throttles, hthrottles, history, hhistory,
    _, hvalue, failure, hfailure, -⟩ := h
  let j : Job := ⟨jid, className, data, if NotBlank queue then some queue else none, worker, state,
    priority, remaining, retries, if 0 < expires then some expires else none, tracked, spawnedFrom,
    dependencies, dependents, tags, throttles, history, failure⟩
  exact ⟨j, ⟨hjid, hclass, hdata, ⟨_, hqueue, rfl⟩, hworker, hstate, hpriority, hremaining,
    hretries, ⟨_, hexpires, rfl⟩, htracked, ⟨_, hspawned, hparent⟩, hdependencies, hdependents,
    htags, hthrottles, hhistory, ⟨_, hvalue, hfailure⟩⟩⟩

theorem violation?_remainingRule : remainingRule.violation? j = j.remainingViolation? := by
  have hlow : j.remaining < -1 ↔ ¬ -1 ≤ j.remaining := by omega
  have hhigh : j.retries < j.remaining ↔ ¬ j.remaining ≤ j.retries := by omega
  simp only [remainingRule, remainingViolation?, hlow, hhigh]
  by_cases hleast : -1 ≤ j.remaining
  · by_cases hmost : j.remaining ≤ j.retries <;> simp [hleast, hmost]
  · simp [hleast]

/-- A job is built of what was read unless it breaks a rule. -/
theorem build_fields (h : j.ReadFrom o) : j.fields.build = Grammar.judge "Job" j rules := by
  refine Grammar.ensure_bind_eq_judge ?_ rfl rfl
  refine Grammar.ensure_bind_eq_judge ?_ rfl rfl
  refine Grammar.ensure_bind_eq_judge ?_ rfl rfl
  refine Slot.given_bind.trans ((Grammar.ensure_bind_of_pos h.queue_ok).trans ?_)
  refine Slot.given_bind.trans ((Grammar.ensure_bind_of_pos h.worker_ok).trans ?_)
  refine Grammar.ensure_bind_eq_judge ?_ rfl rfl
  refine Grammar.ensure_bind_eq_judge ?_ rfl rfl
  refine Slot.given_bind.trans ?_
  refine Grammar.ensure_bind_eq_judge ?_ rfl rfl
  have hexpires : (Slot.mk "Job" "expires").optionalPositive j.expires = .ok j.expires :=
    Slot.optionalPositive_eq_ok_iff.mpr ⟨rfl, h.expires_ok⟩
  simp only [fields, hexpires]
  refine Grammar.ensure_bind_eq_judge ?_ rfl rfl
  refine Grammar.ensure_bind_eq_judge ?_ rfl rfl
  refine Grammar.ensure_bind_eq_judge ?_ rfl rfl
  refine Grammar.ensure_bind_eq_judge ?_ rfl rfl
  refine Grammar.ensure_bind_eq_judge ?_ rfl rfl
  simp only [Grammar.judge, violation?_remainingRule]
  cases j.remainingViolation? <;> rfl

end Rounds

/-- Jobs are decoded by their grammar. -/
theorem governs : grammar.Governs draft JobDraft.build where
  errorOf?_draft := errorOf?_draft
  exists_readFrom := exists_readFrom
  exists_draft h := ⟨_, result_draft_eq_ok_iff.mpr h, build_fields h⟩

theorem direct_workerReader : workerReader.Direct :=
  fun v _ h => by cases v <;> cases h

theorem direct_parentReader : parentReader.Direct := by
  intro v i h
  cases v with
  | bool b =>
      cases b <;> cases h
  | null | int _ | float _ | str _ | arr _ | obj _ =>
      cases h

/-- Every reader of a job but those of the history and the failure reports faults of its own. -/
theorem direct_or_of_mem_readers {r : Reader} (h : r ∈ readers) :
    r.Direct ∨ r = historyReader ∨
      r = .of "failure" fun v => (Failure.ofJson v).result := by
  revert r
  simp only [readers, List.forall_mem_cons]
  exact ⟨.inl Reader.direct_kind, .inl Reader.direct_kind, .inl Reader.direct_kind,
    .inl Reader.direct_kind, .inl direct_workerReader, .inl Reader.direct_kind,
    .inl Reader.direct_kind, .inl Reader.direct_kind, .inl Reader.direct_kind,
    .inl Reader.direct_kind, .inl Reader.direct_kind, .inl direct_parentReader,
    .inl Reader.direct_items, .inl Reader.direct_items, .inl Reader.direct_items,
    .inl Reader.direct_items, .inr (.inl trivial), .inr (.inr trivial), by simp⟩

/-- A refusal that a reader of a job passes on is that of an event or of the failure. -/
theorem location_of_mem_readers {r : Reader} {w : Json} {i : Invalid} (hr : r ∈ readers)
    (h : r.faultOf? w = some (.invalid i)) :
    i.record ≠ "Job" ∧ (i.location ∈ ["LogEvent", "what", "when", "extras"] ∨
      i.record = "JobFailure" ∧ i.location ∈ ["group", "message", "when", "worker_name"]) := by
  rcases direct_or_of_mem_readers hr with hdirect | rfl | rfl
  · exact absurd h (hdirect w i)
  · obtain ⟨u, hu⟩ := Json.exists_item_of_listFault? h
    have hevent := Event.location_of_ofJson (errorOf?_eq_some_iff.mp hu)
    rcases hevent with ⟨kind, hrecord, hlocation⟩ | ⟨hrecord, hlocation⟩
    · refine ⟨?_, .inl (by simp [hlocation])⟩
      rw [hrecord]
      cases kind <;> decide
    · exact ⟨by simp [hrecord], .inl hlocation⟩
  · obtain ⟨hrecord, hlocation⟩ := Failure.location_of_ofJson (errorOf?_eq_some_iff.mp h)
    exact ⟨by simp [hrecord], .inr ⟨hrecord, hlocation⟩⟩

/-- Where a refusal is reported that is passed on from an event or from the failure of a job, or
made by the job itself. -/
theorem location_of_ofJson {v : Json} {i : Invalid} (h : (ofJson v).result = .error (.invalid i)) :
    (i.record = "Job" ∧ i.location ∈ rules.map Rule.location) ∨
      i.record ≠ "Job" ∧ (i.location ∈ ["LogEvent", "what", "when", "extras"] ∨
        i.record = "JobFailure" ∧ i.location ∈ ["group", "message", "when", "worker_name"]) := by
  have hverdict : grammar.Verdict v (.error (.invalid i)) := governs.result_eq_iff.mp h
  rcases hverdict.location_mem with hplace | ⟨r, hr, w, hfault⟩
  · exact .inl hplace
  · exact .inr (location_of_mem_readers hr hfault)

/-- What is reported of a value that is to be a job is the verdict of the grammar, and so it is of
the events and of the failure inside it.  A refusal never names the queue or the expiry, and names a
worker only if it is that of a failure. -/
theorem result_ofJson_eq_iff_verdict (v : Json) :
    (∀ r, (ofJson v).result = r ↔ grammar.Verdict v r) ∧
      (∀ w r, (Event.ofJson w).result = r ↔ Event.Verdict w r) ∧
      (∀ w r, (Failure.ofJson w).result = r ↔ Failure.Verdict w r) ∧
      ∀ i, (ofJson v).result = .error (.invalid i) →
        i.location ≠ "queue_name" ∧ i.location ≠ "expires" ∧
          (i.location = "worker_name" → i.record = "JobFailure") := by
  refine ⟨fun r => governs.result_eq_iff, fun w r => Event.result_ofJson_eq_iff,
    fun w r => Failure.result_ofJson_eq_iff, fun i h => ?_⟩
  rcases location_of_ofJson h with ⟨-, hplace⟩ | ⟨-, hplace | ⟨hrecord, hplace⟩⟩
  · have hplaces : ∀ place ∈ rules.map Rule.location,
        place ≠ "queue_name" ∧ place ≠ "expires" ∧ place ≠ "worker_name" := by decide
    obtain ⟨hqueue, hexpires, hworker⟩ := hplaces _ hplace
    exact ⟨hqueue, hexpires, fun h => absurd h hworker⟩
  · have hplaces : ∀ place ∈ ["LogEvent", "what", "when", "extras"],
        place ≠ "queue_name" ∧ place ≠ "expires" ∧ place ≠ "worker_name" := by decide
    obtain ⟨hqueue, hexpires, hworker⟩ := hplaces _ hplace
    exact ⟨hqueue, hexpires, fun h => absurd h hworker⟩
  · have hplaces : ∀ place ∈ ["group", "message", "when", "worker_name"],
        place ≠ "queue_name" ∧ place ≠ "expires" := by decide
    obtain ⟨hqueue, hexpires⟩ := hplaces _ hplace
    exact ⟨hqueue, hexpires, fun _ => hrecord⟩

/-- An object with a blank queue and worker, an expiry that has passed, and the retries, tags,
throttles and failure that are given. -/
def blankWorkerJob (retries : Int) (tags throttles failure : Json) : Json :=
  .obj
    [("worker", .str " "), ("queue", .str ""), ("expires", .int (-5)), ("retries", .int retries),
      ("tags", tags), ("jid", .str "jid-1"), ("klass", .str "SendEmail"), ("data", .str "7"),
      ("state", .str "failed"), ("priority", .int 0), ("remaining", .int (-1)),
      ("spawned_from_jid", .bool false), ("dependencies", .obj []),
      ("dependents", .arr [.str "jid-7", .str "jid-8"]), ("throttles", throttles),
      ("tracked", .bool true), ("extra", .null),
      ("history", .arr [.obj [("what", .str "done"), ("when", .int 3)]]), ("failure", failure)]

/-- A failure that is blank where its own worker should be. -/
def blankFailure : Json :=
  .obj
    [("group", .str "timeout"), ("message", .str "late"), ("when", .int 2), ("worker", .str "")]

/-- The job that is read when nothing is at fault. -/
def unnamedWorkerJob : Job :=
  ⟨"jid-1", "SendEmail", "7", none, none, "failed", 0, -1, 5, none, true, none, [],
    ["jid-7", "jid-8"], ["billing", "mail"], ["gpu"], [.done 3], none⟩

/-- Of several faults that of the failure is met while the properties are read, and that of the list
of tags before it; without a fault all values are in the job. -/
theorem verdict_blankWorkerJob :
    grammar.Verdict
        (blankWorkerJob (-2) (.arr [.str " "]) (.arr []) blankFailure)
        (.error (.invalid ⟨"JobFailure", "worker_name", .blank⟩)) ∧
      grammar.Verdict
        (blankWorkerJob (-2) (.arr [.str " ", .int 3, .null]) (.str "gpu") blankFailure)
        (.error (.unexpectedShape "tags" "an array of strings" "integer")) ∧
      grammar.Verdict
        (blankWorkerJob (-2) (.arr [.str "mail", .str " "]) (.arr []) .null)
        (.error (.invalid ⟨"Job", "retries", .negative⟩)) ∧
      grammar.Verdict
        (blankWorkerJob 5 (.arr [.str "mail", .str " "]) (.arr []) .null)
        (.error (.invalid ⟨"Job", "tags", .blankItem⟩)) ∧
      grammar.Verdict
        (blankWorkerJob 5 (.arr [.str "billing", .str "mail"]) (.arr [.str "gpu"]) (.obj []))
        (.ok unnamedWorkerJob) ∧
      Failure.Verdict blankFailure (.error (.invalid ⟨"JobFailure", "worker_name", .blank⟩)) ∧
      "worker_name" ≠ "queue_name" ∧ "worker_name" ≠ "expires" := by
  obtain ⟨hfailed, -, hfailure, hplaces⟩ := result_ofJson_eq_iff_verdict
    (blankWorkerJob (-2) (.arr [.str " "]) (.arr []) blankFailure)
  have hverdict := fun v => (result_ofJson_eq_iff_verdict v).1
  have hrun : (ofJson (blankWorkerJob (-2) (.arr [.str " "]) (.arr []) blankFailure)).result =
      .error (.invalid ⟨"JobFailure", "worker_name", .blank⟩) := by decide +kernel
  exact ⟨(hfailed _).mp hrun, (hverdict _ _).mp (by decide +kernel),
    (hverdict _ _).mp (by decide +kernel), (hverdict _ _).mp (by decide +kernel),
    (hverdict _ _).mp (by decide +kernel), (hfailure _ _).mp (by decide +kernel),
    (hplaces _ hrun).1, (hplaces _ hrun).2.1⟩

end Job
end JobWire
