import JobWire.Proofs.Grammar
import JobWire.Proofs.Independence

/-!
# What a record is refused for

A record is read in rounds, and the readers of the second round take every property for granted that
the first one has checked.  They are right to: a record is only ever refused for what is wrong with
the value, never because a property was read that had not been checked.

An error is *plain* if it is such a fault and wraps no other.  Lists of records are refused for
plain errors as well.  An envelope wraps the errors of its elements, so of its errors it can only be
said that they are plain or wrap one.

**Results.**
* `failsWith_bind_iff`: the errors of runs in sequence are those of either run.
* `RecordKind.failsWith_ofJson`: the errors of every record decoder are plain.
* `EnvelopeKind.failsWith_ofJson`: no envelope is refused for a property that was not checked.
-/

namespace JobWire

section Runs

variable {ε ε' α β : Type} {P : ε → Prop} {x : Except ε α}

/-- The run succeeds, or its error satisfies a predicate. -/
def FailsWith (P : ε → Prop) (r : Except ε α) : Prop :=
  ∀ e, r = .error e → P e

theorem failsWith_ok {a : α} : FailsWith P (.ok a) :=
  nofun

@[simp]
theorem failsWith_pure {a : α} : FailsWith P (pure a) :=
  failsWith_ok

@[simp]
theorem failsWith_result_pure {a : α} : FailsWith P (pure a : Traced ε α).result :=
  failsWith_ok

theorem failsWith_error_iff {e : ε} : FailsWith P (.error e : Except ε α) ↔ P e := by
  simp [FailsWith]

theorem FailsWith.mono {Q : ε → Prop} (h : FailsWith P x) (hPQ : ∀ e, P e → Q e) :
    FailsWith Q x :=
  fun e he => hPQ e (h e he)

theorem FailsWith.mapError {Q : ε' → Prop} {f : ε → ε'} (h : FailsWith P x)
    (hf : ∀ e, P e → Q (f e)) : FailsWith Q (x.mapError f) := by
  cases x with
  | ok a =>
      exact failsWith_ok
  | error e =>
      exact failsWith_error_iff.mpr (hf e (failsWith_error_iff.mp h))

@[simp]
theorem failsWith_bind_iff {f : α → Except ε β} :
    FailsWith P (x >>= f) ↔ FailsWith P x ∧ ∀ a, x = .ok a → FailsWith P (f a) := by
  constructor
  · intro h
    refine ⟨fun e he => h e ?_, fun a ha e he => h e ?_⟩
    · exact bind_eq_error_iff.mpr (.inl he)
    · exact bind_eq_error_iff.mpr (.inr ⟨a, ha, he⟩)
  · rintro ⟨hx, hf⟩ e he
    rcases bind_eq_error_iff.mp he with hfirst | ⟨a, ha, hsecond⟩
    · exact hx e hfirst
    · exact hf a ha e hsecond

/-- The error of a list of runs is that of one of them. -/
theorem failsWith_each {f : α → Traced ε β} {as : List α}
    (h : ∀ a ∈ as, FailsWith P (f a).result) : FailsWith P (Traced.each f as).result := by
  intro e he
  have hfirst := Traced.errorOf?_each.symm.trans (errorOf?_eq_some_iff.mpr he)
  obtain ⟨a, hisFirst, ha⟩ := findSome?_eq_some_iff_isFirst.mp hfirst
  exact h a hisFirst.mem e (errorOf?_eq_some_iff.mp ha)

end Runs

namespace DecodeError

/-- A fault of the value itself, with no other error inside. -/
def Plain : DecodeError → Prop
  | malformedRoot _ | missing _ _ | null _ _ | unexpectedShape _ _ _ | nonEmptyObject _ _
  | invalid _ => True
  | other _ _ | invalidJson | malformedJson _ _ | nested _ _ | nestedElement _ _ _
  | invalidText _ _ | unchecked _ => False

/-- Neither the error nor one inside it is that a property was read before it was checked. -/
def Checked : DecodeError → Prop
  | unchecked _ => False
  | nestedElement _ _ cause => cause.Checked
  | _ => True

variable {e : DecodeError}

theorem Plain.checked (h : e.Plain) : e.Checked := by
  cases e with
  | other _ _ | invalidJson | malformedJson _ _ | nested _ _ | nestedElement _ _ _
  | invalidText _ _ | unchecked _ =>
      exact h.elim
  | malformedRoot _ | missing _ _ | null _ _ | unexpectedShape _ _ _ | nonEmptyObject _ _
  | invalid _ =>
      exact trivial

theorem Plain.kind_ne_nested (h : e.Plain) : e.kind ≠ .nested := by
  cases e with
  | other _ _ | invalidJson | malformedJson _ _ | nested _ _ | nestedElement _ _ _
  | invalidText _ _ | unchecked _ =>
      exact h.elim
  | malformedRoot _ | missing _ _ | null _ _ | unexpectedShape _ _ _ | nonEmptyObject _ _
  | invalid _ =>
      exact nofun

end DecodeError

open DecodeError (Plain Checked)

section Readers

variable {α : Type} {v : Json} {name : String} {item : Json → Decode α}

theorem Json.failsWith_asString : FailsWith Plain (v.asString name) := by
  intro e he
  obtain ⟨-, rfl⟩ := asString_eq_error_iff.mp he
  exact trivial

theorem Json.failsWith_asInt : FailsWith Plain (v.asInt name) := by
  intro e he
  obtain ⟨-, rfl⟩ := asInt_eq_error_iff.mp he
  exact trivial

theorem Json.failsWith_asBool : FailsWith Plain (v.asBool name) := by
  intro e he
  obtain ⟨-, rfl⟩ := asBool_eq_error_iff.mp he
  exact trivial

theorem Json.failsWith_asOptionalString : FailsWith Plain (v.asOptionalString name) := by
  cases v with
  | null | str _ =>
      exact failsWith_ok
  | bool _ | int _ | float _ | arr _ | obj _ =>
      exact failsWith_error_iff.mpr trivial

theorem Json.failsWith_asObject : FailsWith Plain v.asObject := by
  cases v with
  | obj _ =>
      exact failsWith_ok
  | null | bool _ | int _ | float _ | str _ | arr _ =>
      exact failsWith_error_iff.mpr trivial

theorem Json.failsWith_stringElement : FailsWith Plain (stringElement name v).result := by
  cases v with
  | str _ =>
      exact failsWith_ok
  | null | bool _ | int _ | float _ | arr _ | obj _ =>
      exact failsWith_error_iff.mpr trivial

theorem Json.failsWith_intElement : FailsWith Plain (intElement name v).result := by
  cases v with
  | int _ =>
      exact failsWith_ok
  | null | bool _ | float _ | str _ | arr _ | obj _ =>
      exact failsWith_error_iff.mpr trivial

theorem Job.failsWith_parent : FailsWith Plain (parent v) := by
  unfold parent
  split
  · exact failsWith_ok
  · exact failsWith_ok
  · exact failsWith_ok
  · exact failsWith_error_iff.mpr trivial

theorem Json.failsWith_elements : FailsWith Plain (v.elements name) := by
  unfold elements
  split
  · exact failsWith_error_iff.mpr trivial
  · exact failsWith_ok
  · exact failsWith_error_iff.mpr trivial
  · exact failsWith_ok
  · exact failsWith_error_iff.mpr trivial

/-- A list is refused for a plain error if its elements are. -/
theorem Json.failsWith_list (hitem : ∀ w, FailsWith Plain (item w).result) :
    FailsWith Plain (v.list name item).result := by
  rw [list, Traced.result_bind, failsWith_bind_iff]
  exact ⟨failsWith_elements, fun items _ => failsWith_each fun w _ => hitem w⟩

@[simp]
theorem failsWith_liftBuilt {b : Built α} : FailsWith Plain (liftM b : Decode α).result := by
  have hbuilt : FailsWith (fun _ => True) b := fun _ _ => trivial
  exact hbuilt.mapError fun _ _ => trivial

end Readers

namespace Shape

variable {α : Type} {s : Shape} {o : Object} {v : Json} {name : String} {item : Json → Decode α}

section Fits

variable (h : s.Fits o)
include h

/-- A declared property is there to be read. -/
theorem Fits.failsWith_value (hname : name ∈ s.names) : FailsWith Plain (o.value name) := by
  obtain ⟨v, hv⟩ := h.exists_value hname
  rw [Object.value_eq_ok_iff.mpr hv]
  exact failsWith_ok

theorem Fits.failsWith_string (hname : name ∈ s.names) : FailsWith Plain (o.string name) :=
  failsWith_bind_iff.mpr ⟨h.failsWith_value hname, fun _ _ => Json.failsWith_asString⟩

theorem Fits.failsWith_int (hname : name ∈ s.names) : FailsWith Plain (o.int name) :=
  failsWith_bind_iff.mpr ⟨h.failsWith_value hname, fun _ _ => Json.failsWith_asInt⟩

theorem Fits.failsWith_bool (hname : name ∈ s.names) : FailsWith Plain (o.bool name) :=
  failsWith_bind_iff.mpr ⟨h.failsWith_value hname, fun _ _ => Json.failsWith_asBool⟩

theorem Fits.failsWith_optionalString (hname : name ∈ s.names) :
    FailsWith Plain (o.optionalString name) :=
  failsWith_bind_iff.mpr ⟨h.failsWith_value hname, fun _ _ => Json.failsWith_asOptionalString⟩

theorem Fits.failsWith_list (hname : name ∈ s.names)
    (hitem : ∀ w, FailsWith Plain (item w).result) :
    FailsWith Plain (o.list name item).result := by
  rw [Object.list, Traced.result_bind, failsWith_bind_iff]
  exact ⟨h.failsWith_value hname, fun _ _ => Json.failsWith_list hitem⟩

theorem Fits.failsWith_strings (hname : name ∈ s.names) :
    FailsWith Plain (o.strings name).result :=
  h.failsWith_list hname fun _ => Json.failsWith_stringElement

theorem Fits.failsWith_ints (hname : name ∈ s.names) : FailsWith Plain (o.ints name).result :=
  h.failsWith_list hname fun _ => Json.failsWith_intElement

end Fits

/-- A decoder whose fields are read after the shape has been checked, and with plain errors only,
has plain errors only. -/
theorem failsWith_read_bind {f : Object → Decode α}
    (h : ∀ o, s.Fits o → FailsWith Plain (f o).result) :
    FailsWith Plain (s.read v >>= f).result := by
  rw [Traced.result_bind, failsWith_bind_iff]
  constructor
  · cases v with
    | obj o =>
        rw [read_obj]
        cases hfault : s.firstFault? o with
        | none =>
            exact failsWith_ok
        | some e =>
            obtain ⟨name, -, hname⟩ := findSome?_eq_some_iff_isFirst.mp hfault
            refine failsWith_error_iff.mpr ?_
            unfold fault? at hname
            split at hname
            · cases hname
              exact trivial
            · split_ifs at hname
              cases hname
              exact trivial
            · cases hname
    | null | bool _ | int _ | float _ | str _ | arr _ =>
        exact failsWith_error_iff.mpr trivial
  · intro o hread
    exact h o (result_read_eq_ok_iff.mp hread).2

end Shape

section Records

variable {v : Json} {o : Object}

theorem QueueCounts.failsWith_ofJson : FailsWith Plain (ofJson v).result := by
  refine Shape.failsWith_read_bind fun o h => ?_
  simp (disch := decide) [draft, Traced.result_bind, Traced.result_lift, h.failsWith_string,
    h.failsWith_int, h.failsWith_bool]

theorem WorkerCounts.failsWith_ofJson : FailsWith Plain (ofJson v).result := by
  refine Shape.failsWith_read_bind fun o h => ?_
  simp (disch := decide) [draft, Traced.result_bind, Traced.result_lift, h.failsWith_string,
    h.failsWith_int]

theorem Throttle.failsWith_ofJson : FailsWith Plain (ofJson v).result := by
  refine Shape.failsWith_read_bind fun o h => ?_
  simp (disch := decide) [draft, Traced.result_bind, Traced.result_lift, h.failsWith_string,
    h.failsWith_int]

theorem PhaseStats.failsWith_ofJson : FailsWith Plain (ofJson v).result := by
  refine Shape.failsWith_read_bind fun o h => ?_
  simp (disch := decide) [draft, Traced.result_bind, Traced.result_lift, h.failsWith_int,
    h.failsWith_ints]

theorem QueueStats.failsWith_ofJson : FailsWith Plain (ofJson v).result := by
  refine Shape.failsWith_read_bind fun o h => ?_
  simp (disch := decide) [draft, Traced.result_bind, Traced.result_lift, h.failsWith_int,
    h.failsWith_value, PhaseStats.failsWith_ofJson]

theorem RecurringJob.failsWith_ofJson : FailsWith Plain (ofJson v).result := by
  refine Shape.failsWith_read_bind fun o h => ?_
  simp (disch := decide) [draft, Traced.result_bind, Traced.result_lift, h.failsWith_string,
    h.failsWith_int, h.failsWith_strings]

/-- Whether a priority pattern is fair is looked up only if it says so. -/
theorem PriorityPattern.failsWith_readFairly : FailsWith Plain (readFairly o) := by
  unfold readFairly
  split
  · exact failsWith_ok
  · exact Json.failsWith_asBool

theorem PriorityPattern.failsWith_ofJson : FailsWith Plain (ofJson v).result := by
  refine Shape.failsWith_read_bind fun o h => ?_
  simp (disch := decide) [draft, Traced.result_bind, Traced.result_lift, h.failsWith_strings,
    failsWith_readFairly]

theorem Failure.failsWith_ofJson : FailsWith Plain (ofJson v).result := by
  unfold ofJson
  split
  · exact failsWith_ok
  · exact failsWith_ok
  · refine Shape.failsWith_read_bind fun o h => ?_
    simp (disch := decide) [draft, Traced.result_bind, Traced.result_lift, h.failsWith_string,
      h.failsWith_int, -bind_pure_comp]
  · exact failsWith_error_iff.mpr trivial

theorem EventKind.failsWith_decode {kind : EventKind} :
    FailsWith Plain (kind.decode o).result := by
  refine Shape.failsWith_read_bind fun o h => ?_
  cases kind with
  | put | popped | done | failed | failedRetries | throttled | timedOut =>
      simp (disch := decide) [draft, Traced.result_bind, Traced.result_lift, h.failsWith_string,
        h.failsWith_int]

theorem Object.failsWith_require {name : String} : FailsWith Plain (o.require name) := by
  unfold require
  split
  · exact failsWith_ok
  · exact failsWith_error_iff.mpr trivial

theorem Object.failsWith_what : FailsWith Plain o.what := by
  refine failsWith_bind_iff.mpr ⟨failsWith_require, fun v _ => ?_⟩
  split
  · exact failsWith_error_iff.mpr trivial
  · exact Json.failsWith_asString

theorem Event.failsWith_decodeLog {what : String} :
    FailsWith Plain (decodeLog what o).result := by
  -- A log event declares nothing: that its time is there to be read is known from `require` alone.
  rw [decodeLog, Traced.result_bind, failsWith_bind_iff]
  refine ⟨Object.failsWith_require, fun stamp hstamp => ?_⟩
  have hvalue : o.value "when" = .ok stamp :=
    Object.value_eq_ok_iff.mpr (Object.require_eq_ok_iff.mp hstamp)
  split_ifs
  · exact failsWith_error_iff.mpr trivial
  · rw [Traced.result_bind, failsWith_bind_iff]
    refine ⟨failsWith_bind_iff.mpr ⟨?_, fun _ _ => Json.failsWith_asInt⟩, ?_⟩
    · rw [hvalue]
      exact failsWith_ok
    · exact fun _ _ => failsWith_liftBuilt

theorem Event.failsWith_ofJson : FailsWith Plain (ofJson v).result := by
  simp only [ofJson, Traced.result_bind, Traced.result_lift, failsWith_bind_iff]
  refine ⟨Json.failsWith_asObject, fun o _ => ⟨Object.failsWith_what, fun what _ => ?_⟩⟩
  split
  · exact EventKind.failsWith_decode
  · exact failsWith_decodeLog

theorem Job.failsWith_ofJson : FailsWith Plain (ofJson v).result := by
  refine Shape.failsWith_read_bind fun o h => ?_
  have hhistory : FailsWith Plain (o.list "history" Event.ofJson).result :=
    h.failsWith_list (by decide) fun _ => Event.failsWith_ofJson
  simp (disch := decide) [draft, Traced.result_bind, Traced.result_lift, h.failsWith_string,
    h.failsWith_int, h.failsWith_bool, h.failsWith_optionalString, h.failsWith_strings,
    h.failsWith_value, Job.failsWith_parent, Failure.failsWith_ofJson, hhistory]

/-- A record is only refused for what is wrong with the value. -/
theorem RecordKind.failsWith_ofJson {r : RecordKind} : FailsWith Plain (r.ofJson v).result := by
  cases r with
  | job =>
      exact Job.failsWith_ofJson
  | recurringJob =>
      exact RecurringJob.failsWith_ofJson
  | failure =>
      exact Failure.failsWith_ofJson
  | event _ =>
      exact Event.failsWith_ofJson
  | queueCounts =>
      exact QueueCounts.failsWith_ofJson
  | phaseStats =>
      exact PhaseStats.failsWith_ofJson
  | queueStats =>
      exact QueueStats.failsWith_ofJson
  | workerCounts =>
      exact WorkerCounts.failsWith_ofJson
  | throttle =>
      exact Throttle.failsWith_ofJson
  | priorityPattern =>
      exact PriorityPattern.failsWith_ofJson

end Records

section Envelopes

variable {α : Type} {v : Json} {o : Object} {name typeName : String} {item : Json → Decode α}

/-- A list of an envelope wraps what its elements are refused for. -/
theorem Object.failsWith_envelopeList (hitem : ∀ w, FailsWith Plain (item w).result) :
    FailsWith Checked (o.envelopeList name typeName item).result := by
  simp only [envelopeList, Traced.result_bind, Traced.result_lift, failsWith_bind_iff]
  refine ⟨failsWith_require.mono fun _ => Plain.checked, fun v _ => ⟨?_, fun items _ => ?_⟩⟩
  · unfold envelopeElements
    split
    · exact failsWith_ok
    · exact Json.failsWith_elements.mono fun _ => Plain.checked
    · exact failsWith_error_iff.mpr trivial
  · have helements := failsWith_each fun w (_ : w ∈ items) => hitem w
    exact helements.mapError fun _ hplain => hplain.checked

theorem Object.failsWith_envelopeJids : FailsWith Checked (o.envelopeJids name).result :=
  failsWith_envelopeList fun _ => Json.failsWith_stringElement

theorem JidsResult.failsWith_ofJson : FailsWith Checked (ofJson v).result := by
  simp only [ofJson, Traced.result_bind, Traced.result_lift, failsWith_bind_iff]
  refine ⟨Json.failsWith_asObject.mono fun _ => Plain.checked, fun o _ => ?_⟩
  refine ⟨Object.failsWith_envelopeJids, fun jids _ => ?_⟩
  refine ⟨Object.failsWith_require.mono fun _ => Plain.checked, fun total _ => ?_⟩
  exact ⟨Json.failsWith_asInt.mono fun _ => Plain.checked, fun _ _ => failsWith_result_pure⟩

theorem TrackedJobs.failsWith_ofJson : FailsWith Checked (ofJson v).result := by
  simp only [ofJson, Traced.result_bind, Traced.result_lift, failsWith_bind_iff]
  refine ⟨Json.failsWith_asObject.mono fun _ => Plain.checked, fun o _ => ?_⟩
  refine ⟨Object.failsWith_envelopeList fun _ => Job.failsWith_ofJson, fun jobs _ => ?_⟩
  exact ⟨Object.failsWith_envelopeJids, fun _ _ => failsWith_result_pure⟩

theorem WorkerJobs.failsWith_ofJson : FailsWith Checked (ofJson v).result := by
  simp only [ofJson, Traced.result_bind, Traced.result_lift, failsWith_bind_iff]
  refine ⟨Json.failsWith_asObject.mono fun _ => Plain.checked, fun o _ => ?_⟩
  refine ⟨Object.failsWith_envelopeJids, fun jids _ => ?_⟩
  exact ⟨Object.failsWith_envelopeJids, fun _ _ => failsWith_result_pure⟩

/-- An envelope is not refused for a property that was read before it was checked, and neither is
any of its elements. -/
theorem EnvelopeKind.failsWith_ofJson {k : EnvelopeKind} :
    FailsWith Checked (k.ofJson v).result := by
  cases k with
  | jidsResult =>
      exact JidsResult.failsWith_ofJson
  | trackedJobs =>
      exact TrackedJobs.failsWith_ofJson
  | workerJobs =>
      exact WorkerJobs.failsWith_ofJson

end Envelopes

end JobWire
