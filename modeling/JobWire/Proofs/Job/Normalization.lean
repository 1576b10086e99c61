import JobWire.Proofs.Job.Reading
import JobWire.Proofs.Normalization

/-!
# Jobs in normal form

What decoding and encoding a job changes in the object that it was read from.  The declared
properties are written in declared order and the others are dropped; each value stays as it is, but
the placeholders for no value become one, an empty list is written as an array, and the failure and
the events of the history are put into normal form themselves.

**Results.**
* `Job.toJson_eq_normalized`: a job that was read is written as the normal form of its object, which
  is its own normal form.
-/

namespace JobWire

namespace Event

/-- The value that an event is written as after it was read. -/
def normalForm (v : Json) : Json :=
  match (ofJson v).result with
  | .ok e => e.toJson
  | .error _ => v

variable {e : Event} {v : Json}

theorem normalForm_of_ofJson (h : (ofJson v).result = .ok e) : normalForm v = e.toJson := by
  rw [normalForm, h]

/-- The texts of an event can be written anew without changing its value. -/
theorem toJson_rewritten (e : Event) : e.rewritten.toJson = e.toJson := by
  cases e with
  | log what time extras =>
      have hmembers : ∀ m ∈ extraMembers extras, m.2.Readable 0 := readable_of_mem_extraMembers
      rw [rewritten, toJson, toJson, ownMembers, ownMembers,
        extraMembers_texts hmembers]
      rfl
  | put _ _ | popped _ _ | done _ | failed _ _ _ | failedRetries _ _ | throttled _ _
  | timedOut _ =>
      rfl

theorem normalForm_normalForm (v : Json) : normalForm (normalForm v) = normalForm v := by
  cases hread : (ofJson v).result with
  | error e =>
      have hv : normalForm v = v := by rw [normalForm, hread]
      rw [hv, hv]
  | ok e =>
      have hvalid := valid_of_ofJson hread
      rw [normalForm_of_ofJson hread, normalForm_of_ofJson (result_ofJson_toJson hvalid),
        toJson_rewritten]

end Event

namespace Failure

/-- The properties of a failure in normal form. -/
def forms : List Form :=
  [.verbatim "group", .verbatim "message", .verbatim "when", .verbatim "worker"]

/-- The value that a failure, or its absence, is written as after it was read. -/
def normalForm : Json → Json
  | .null | .obj [] => .obj []
  | .obj members => .obj (Object.normalized forms members)
  | v => v

theorem normalized_normalized (o : Object) :
    (o.normalized forms).normalized forms = o.normalized forms :=
  Object.normalized_normalized (by decide) (by simp [forms, Form.verbatim])

theorem normalForm_normalForm (v : Json) : normalForm (normalForm v) = normalForm v := by
  have hobj : ∀ members, members = Object.normalized forms members →
      normalForm (.obj members) = .obj members := by
    intro members h
    cases members with
    | nil =>
        rfl
    | cons m ms =>
        exact congrArg Json.obj h.symm
  cases v with
  | obj members =>
      cases members with
      | nil =>
          rfl
      | cons m ms =>
          exact hobj _ (normalized_normalized (m :: ms)).symm
  | null | bool _ | int _ | float _ | str _ | arr _ =>
      rfl

theorem ReadAs.normalForm {v : Json} {failure : Option Failure} (h : ReadAs v failure) :
    normalForm v = toJson failure := by
  cases h with
  | null | empty =>
      rfl
  | @failure o _ hread _ =>
      cases o with
      | nil =>
          cases hread.group
      | cons m ms =>
          refine congrArg Json.obj ?_
          refine Object.normalized_cons hread.group rfl ?_
          refine Object.normalized_cons hread.message rfl ?_
          refine Object.normalized_cons hread.time rfl ?_
          exact Object.normalized_cons hread.worker rfl rfl

end Failure

namespace Job

/-- The expiry of a lock, where no lock has the expiry 0. -/
def expiryForm : Json → Json
  | .int i => if i ≤ 0 then .int 0 else .int i
  | v => v

/-- The parent of a job, where false stands for no parent. -/
def parentForm : Json → Json
  | .bool false => .null
  | v => v

/-- The history of a job, as a list of events in normal form. -/
def historyForm (v : Json) : Json :=
  match v.emptyAsArray with
  | .arr items => .arr (items.map Event.normalForm)
  | w => w

/-- The properties of a job in normal form. -/
def forms : List Form :=
  [.verbatim "data", ⟨"dependencies", Json.emptyAsArray⟩, ⟨"dependents", Json.emptyAsArray⟩,
    ⟨"expires", expiryForm⟩, ⟨"failure", Failure.normalForm⟩, ⟨"history", historyForm⟩,
    .verbatim "jid", .verbatim "klass", .verbatim "priority", ⟨"queue", Json.blankAsEmpty⟩,
    .verbatim "remaining", .verbatim "retries", ⟨"spawned_from_jid", parentForm⟩,
    .verbatim "state", ⟨"tags", Json.emptyAsArray⟩, ⟨"throttles", Json.emptyAsArray⟩,
    .verbatim "tracked", ⟨"worker", Json.blankAsEmpty⟩]

theorem forms_names : forms.map Form.property = shape.names := rfl

section Idempotence

variable (v : Json)

theorem expiryForm_expiryForm : expiryForm (expiryForm v) = expiryForm v := by
  cases v with
  | int i =>
      by_cases hi : i ≤ 0
      · simp [expiryForm, hi]
      · simp [expiryForm, hi]
  | null | bool _ | float _ | str _ | arr _ | obj _ =>
      rfl

theorem parentForm_parentForm : parentForm (parentForm v) = parentForm v := by
  cases v with
  | bool b =>
      cases b <;> rfl
  | null | int _ | float _ | str _ | arr _ | obj _ =>
      rfl

theorem historyForm_historyForm : historyForm (historyForm v) = historyForm v := by
  cases v with
  | arr items =>
      simp [historyForm, Json.emptyAsArray, Event.normalForm_normalForm]
  | obj members =>
      cases members <;> rfl
  | null | bool _ | int _ | float _ | str _ =>
      rfl

theorem normalized_normalized (o : Object) :
    (o.normalized forms).normalized forms = o.normalized forms := by
  refine Object.normalized_normalized (by decide) ?_
  simp [forms, Form.verbatim, Json.emptyAsArray_emptyAsArray, Json.blankAsEmpty_blankAsEmpty,
    expiryForm_expiryForm, parentForm_parentForm, historyForm_historyForm,
    Failure.normalForm_normalForm]

end Idempotence

section Read

variable {v : Json} {o : Object} {j : Job}

theorem blankAsEmpty_str {s : String} {t : Option String}
    (h : t = if NotBlank s then some s else none) :
    (Json.str s).blankAsEmpty = .ofOptionalText t := by
  subst h
  by_cases hblank : Text.isBlank s = true
  · simp [Json.blankAsEmpty, Json.ofOptionalText, NotBlank, hblank]
  · simp [Json.blankAsEmpty, Json.ofOptionalText, NotBlank, hblank]

theorem WorkerOf.blankAsEmpty {t : Option String} (h : WorkerOf v t) :
    v.blankAsEmpty = .ofOptionalText t := by
  cases h with
  | null =>
      rfl
  | blank hblank =>
      exact blankAsEmpty_str (if_neg hblank).symm
  | worker hworker =>
      exact blankAsEmpty_str (if_pos hworker).symm

theorem expiryForm_int {i : Int} {expires : Option Int}
    (h : expires = if 0 < i then some i else none) :
    expiryForm (.int i) = .int (expires.getD 0) := by
  subst h
  by_cases hi : i ≤ 0
  · simp [expiryForm, hi, not_lt.mpr hi]
  · simp [expiryForm, hi, not_le.mp hi]

theorem ParentOf.parentForm {jid : Option String} (h : ParentOf v jid) :
    parentForm v = jid.elim .null .str := by
  cases h <;> rfl

theorem historyForm_of_list {events : List Event}
    (h : (v.list "history" Event.ofJson).result = .ok events) :
    historyForm v = .arr (events.map Event.toJson) := by
  obtain ⟨items, hv, hitems⟩ := Json.exists_emptyAsArray_of_list h
  have hforms : items.map Event.normalForm = events.map Event.toJson := by
    clear hv h
    induction hitems with
    | nil =>
        rfl
    | cons hitem _ ih =>
        rw [List.map_cons, List.map_cons, Event.normalForm_of_ofJson hitem, ih]
  rw [historyForm, hv, ← hforms]

theorem ReadFrom.normalized (h : j.ReadFrom o) : j.toJson = .obj (o.normalized forms) := by
  obtain ⟨_, hqueue, hblank⟩ := h.queue
  obtain ⟨_, hworker, hunassigned⟩ := h.worker
  obtain ⟨_, hexpires, hlock⟩ := h.expires
  obtain ⟨_, hspawned, hparent⟩ := h.spawnedFrom
  obtain ⟨_, hdependencies, hdependencyTexts⟩ := h.dependencies.exists_emptyAsArray
  obtain ⟨_, hdependents, hdependentTexts⟩ := h.dependents.exists_emptyAsArray
  obtain ⟨_, htags, htagTexts⟩ := h.tags.exists_emptyAsArray
  obtain ⟨_, hthrottles, hthrottleTexts⟩ := h.throttles.exists_emptyAsArray
  obtain ⟨_, hhistory, hevents⟩ := Object.hasList_iff.mp h.history
  obtain ⟨_, hvalue, hfailure⟩ := h.failure
  refine congrArg Json.obj (Eq.symm ?_)
  -- One step for each property, in declared order.
  refine Object.normalized_cons h.data rfl ?_
  refine Object.normalized_cons hdependencies hdependencyTexts ?_
  refine Object.normalized_cons hdependents hdependentTexts ?_
  refine Object.normalized_cons hexpires (expiryForm_int hlock) ?_
  refine Object.normalized_cons hvalue hfailure.normalForm ?_
  refine Object.normalized_cons hhistory (historyForm_of_list hevents) ?_
  refine Object.normalized_cons h.jid rfl ?_
  refine Object.normalized_cons h.className rfl ?_
  refine Object.normalized_cons h.priority rfl ?_
  refine Object.normalized_cons hqueue (blankAsEmpty_str hblank) ?_
  refine Object.normalized_cons h.remaining rfl ?_
  refine Object.normalized_cons h.retries rfl ?_
  refine Object.normalized_cons hspawned hparent.parentForm ?_
  refine Object.normalized_cons h.state rfl ?_
  refine Object.normalized_cons htags htagTexts ?_
  refine Object.normalized_cons hthrottles hthrottleTexts ?_
  refine Object.normalized_cons h.tracked rfl ?_
  exact Object.normalized_cons hworker hunassigned.blankAsEmpty rfl

end Read

section Rewritten

variable {j : Job}

/-- The job with every text of its history's events written as its value is. -/
def rewritten (j : Job) : Job :=
  { j with history := j.history.map Event.rewritten }

theorem toJson_rewritten (j : Job) : j.rewritten.toJson = j.toJson := by
  have hevents : j.rewritten.history.map Event.toJson = j.history.map Event.toJson := by
    rw [rewritten, List.map_map]
    exact List.map_congr_left fun e _ => e.toJson_rewritten
  rw [toJson, toJson, hevents]
  rfl

theorem valid_rewritten (h : j.Valid) : j.rewritten.Valid :=
  { h with
    history := List.forall_mem_map.mpr fun e he => Event.valid_rewritten (h.history e he) }

/-- A valid job is always read from its own value, with the texts of its events rewritten. -/
theorem result_ofJson_toJson_rewritten (h : j.Valid) :
    (ofJson j.toJson).result = .ok j.rewritten := by
  rw [← toJson_rewritten]
  refine result_ofJson_toJson (valid_rewritten h) (List.forall_mem_map.mpr fun e he => ?_)
  rw [Event.toJson_rewritten]
  exact Event.result_ofJson_toJson (h.history e he)

end Rewritten

/-- A job that was read is written as the normal form of the object that it was read from: it has
the declared properties in declared order, each with its value in its form, and is written as the
same value when it is read once more. -/
theorem toJson_eq_normalized {v : Json} {j : Job} (h : (ofJson v).result = .ok j) :
    ∃ o : Object, v = .obj o ∧ j.toJson = .obj (o.normalized forms) ∧
      (o.normalized forms).names = shape.names ∧
      (∀ f ∈ forms, ∃ w, o.get? f.property = some w ∧
        (o.normalized forms).get? f.property = some (f.settle w)) ∧
      (o.normalized forms).normalized forms = o.normalized forms ∧
      ∃ again, (ofJson j.toJson).result = .ok again ∧ again.toJson = j.toJson := by
  obtain ⟨o, rfl, hread, hvalid⟩ := result_ofJson_eq_ok_iff.mp h
  have hwritten := hread.normalized
  refine ⟨o, rfl, hwritten, ?_, fun f hf => ?_, normalized_normalized o, j.rewritten,
    result_ofJson_toJson_rewritten hvalid, j.toJson_rewritten⟩
  · rw [← Json.obj.inj hwritten]
    rfl
  · have hname : f.property ∈ shape.names := forms_names ▸ List.mem_map_of_mem hf
    obtain ⟨w, hget⟩ := hread.fits.exists_value hname
    refine ⟨w, hget, ?_⟩
    rw [Object.get?_normalized (by decide) hf, hget, Option.map_some]

/-- The properties of a job with every placeholder for no value, in no order. -/
def placeholders : Object :=
  [("worker", .str " "), ("queue", .str ""), ("note", .int 1), ("spawned_from_jid", .bool false),
    ("expires", .int (-5)), ("failure", .null), ("jid", .str "jid-1"), ("klass", .str "SendEmail"),
    ("data", .str "7"), ("state", .str "waiting"), ("priority", .int 0), ("remaining", .int (-1)),
    ("retries", .int 0), ("tracked", .bool true), ("tags", .obj []),
    ("throttles", .arr [.str "ql:q:emails"]), ("dependencies", .obj []), ("dependents", .arr []),
    ("history", .arr [.obj [("queue", .str " "), ("by", .null), ("when", .int 3),
      ("what", .str "put")], .obj [("size", .obj []), ("when", .int 4), ("what", .str "seen")]])]

theorem placeholders_normalized :
    ∃ j, (ofJson (.obj placeholders)).result = .ok j ∧
      j.toJson = .obj (placeholders.normalized forms) ∧
      placeholders.normalized forms =
        [("data", .str "7"), ("dependencies", .arr []), ("dependents", .arr []),
          ("expires", .int 0), ("failure", .obj []),
          ("history", .arr [.obj [("what", .str "put"), ("when", .int 3), ("queue", .str " ")],
            .obj [("what", .str "seen"), ("when", .int 4), ("size", .obj [])]]),
          ("jid", .str "jid-1"), ("klass", .str "SendEmail"), ("priority", .int 0),
          ("queue", .str ""), ("remaining", .int (-1)), ("retries", .int 0),
          ("spawned_from_jid", .null), ("state", .str "waiting"), ("tags", .arr []),
          ("throttles", .arr [.str "ql:q:emails"]), ("tracked", .bool true),
          ("worker", .str "")] := by
  have hread : (ofJson (.obj placeholders)).result = .ok {
      jid := "jid-1", className := "SendEmail", data := "7", queue := none, worker := none,
      state := "waiting", priority := 0, remaining := -1, retries := 0, expires := none,
      tracked := true, spawnedFrom := none, dependencies := [], dependents := [], tags := [],
      throttles := ["ql:q:emails"],
      history := [.put 3 " ", .log "seen" 4 [("size", "\x7b\x7d")]], failure := none } := by
    decide +kernel
  obtain ⟨_, ⟨⟩, hwritten, -⟩ := toJson_eq_normalized hread
  exact ⟨_, hread, hwritten, by decide +kernel⟩

end Job

end JobWire
