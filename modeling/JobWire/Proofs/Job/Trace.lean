import JobWire.Proofs.Ignored
import JobWire.Proofs.Job.Grammar

/-!
# The trace of decoding a job

Decoding a job leaves a notice for every property that a record in it does not declare, and which
notices there are when decoding fails depends on how far it came.  A job is checked first, then its
properties are read in order, its history element by element, and its failure last; what comes after
the first fault is not looked at.

The trace is given here by what the objects say and by which of the reads fail, apart from how the
decoders put their notices together.

**Results.**
* `Traced.log_each`: the notices of the runs of a list, up to the first that fails.
* `Event.log_ofJson`, `Failure.log_ofJson`, `Job.log_ofJson`: the notices of each decoder.
* `Job.log_traces`: the trace of every value that is to be a job or a list of jobs, and when it is
  complete.
-/

namespace JobWire

section Through

variable {α : Type} {p : α → Bool} {as : List α}

/-- The elements of a list up to the first that has a property, and that one. -/
def throughFirst (p : α → Bool) : List α → List α
  | [] => []
  | a :: as => a :: if p a then [] else throughFirst p as

theorem throughFirst_of_forall (h : ∀ a ∈ as, p a = false) : throughFirst p as = as := by
  induction as with
  | nil =>
      rfl
  | cons a as ih =>
      obtain ⟨ha, has⟩ := List.forall_mem_cons.mp h
      simp [throughFirst, ha, ih has]

end Through

namespace Traced

variable {ε α β : Type} {x : Traced ε α} {f : α → Traced ε β} {as : List α}

/-- The run ends with an error. -/
def fails (x : Traced ε α) : Bool :=
  (errorOf? x.result).isSome

theorem fails_eq_false_iff : x.fails = false ↔ errorOf? x.result = none := by
  cases h : errorOf? x.result <;> simp [fails, h]

theorem log_bind_of_silent (h : ∀ a, (f a).log = []) : (x >>= f).log = x.log := by
  cases hx : x.result with
  | error e =>
      exact log_bind_error hx
  | ok a =>
      rw [log_bind_ok hx, h a, List.append_nil]

theorem log_lift_bind_of_silent {r : Except ε α} (h : ∀ a, (f a).log = []) :
    ((liftM r : Traced ε α) >>= f).log = [] :=
  log_bind_of_silent h

/-- The runs of a list note what each of them notes, up to the first that fails. -/
theorem log_each :
    (each f as).log = (throughFirst (fun a => (f a).fails) as).flatMap fun a => (f a).log := by
  induction as with
  | nil =>
      rfl
  | cons a as ih =>
      rw [each, throughFirst, List.flatMap_cons]
      cases ha : (f a).result with
      | error e =>
          rw [log_bind_error ha]
          simp [fails, ha, errorOf?]
      | ok b =>
          have hrest : (each f as >>= fun bs => (pure (b :: bs) : Traced ε (List β))).log =
              (each f as).log := log_bind_of_silent fun _ => rfl
          rw [log_bind_ok ha, hrest, ih]
          simp [fails, ha, errorOf?]

end Traced

namespace Json

/-- The elements of a value, if it is an array. -/
def items : Json → List Json
  | .arr items => items
  | _ => []

theorem log_list {α : Type} {name : String} {item : Json → Decode α} {v : Json} :
    (v.list name item).log =
      (throughFirst (fun w => (item w).fails) v.items).flatMap fun w => (item w).log := by
  cases v with
  | arr items =>
      rw [list_arr]
      exact Traced.log_each
  | obj members =>
      cases members <;> rfl
  | null | bool _ | int _ | float _ | str _ =>
      rfl

end Json

namespace Shape

variable {s : Shape} {o : Object}

instance : Decidable (s.Fits o) :=
  decidable_of_iff (s.firstFault? o = none) firstFault?_eq_none_iff

/-- The notices about the properties that a record does not declare, in the order of the object. -/
def unknownNotices (s : Shape) (o : Object) : List Notice :=
  (s.unknown o).map (Notice.ignored s.record)

/-- What the check of an object notes: nothing unless every declared property is there. -/
def notes (s : Shape) (o : Object) : List Notice :=
  if s.Fits o then s.unknownNotices o else []

theorem log_read_bind {α : Type} {f : Object → Decode α} :
    (s.read (.obj o) >>= f).log = if s.Fits o then s.unknownNotices o ++ (f o).log else [] := by
  rw [read_obj]
  split_ifs with hfits
  · rw [firstFault?_eq_none_iff.mpr hfits]
    rfl
  · cases hfault : s.firstFault? o with
    | none =>
        exact absurd (firstFault?_eq_none_iff.mp hfault) hfits
    | some e =>
        rfl

theorem log_read_bind_of_silent {α : Type} {f : Object → Decode α} (h : (f o).log = []) :
    (s.read (.obj o) >>= f).log = s.notes o := by
  rw [log_read_bind, h, List.append_nil, notes]

end Shape

namespace Event

/-- What is noted of an event: the undeclared properties of a known kind, and nothing of a log
event. -/
def notes : Json → List Notice
  | .obj o =>
      match Object.get? o "what" with
      | some (.str what) => (EventKind.ofName? what).elim [] fun kind => kind.shape.notes o
      | _ => []
  | _ => []

theorem log_decodeLog {what : String} {o : Object} : (decodeLog what o).log = [] := by
  refine Traced.log_lift_bind_of_silent fun stamp => ?_
  split_ifs
  · rfl
  · exact Traced.log_lift_bind_of_silent fun _ => rfl

theorem log_ofJson (v : Json) : (ofJson v).log = notes v := by
  cases v with
  | obj o =>
      rw [ofJson, Json.lift_asObject_obj, pure_bind, notes]
      cases hwhat : Object.what o with
      | ok what =>
          rw [Object.what_eq_ok_iff.mp hwhat, Traced.log_bind_ok rfl]
          cases hkind : EventKind.ofName? what with
          | some kind =>
              simp only [hkind, Option.elim_some]
              exact Shape.log_read_bind_of_silent (Traced.log_lift_bind_of_silent fun _ => rfl)
          | none =>
              simp only [hkind, Option.elim_none]
              exact log_decodeLog
      | error e =>
          rw [Traced.log_bind_error rfl]
          cases hget : Object.get? o "what" with
          | none =>
              rfl
          | some w =>
              cases w with
              | str what =>
                  rw [Object.what_eq_ok_iff.mpr hget] at hwhat
                  cases hwhat
              | null | bool _ | int _ | float _ | arr _ | obj _ =>
                  rfl
  | null | bool _ | int _ | float _ | str _ | arr _ =>
      rfl

end Event

namespace Failure

/-- What is noted of a failure: nothing of one that is empty. -/
def notes : Json → List Notice
  | .obj (m :: ms) => shape.notes (m :: ms)
  | _ => []

theorem log_ofJson (v : Json) : (ofJson v).log = notes v := by
  cases v with
  | obj members =>
      cases members with
      | nil =>
          rfl
      | cons m ms =>
          refine Shape.log_read_bind_of_silent (Traced.log_lift_bind_of_silent fun _ => ?_)
          exact Traced.log_lift_bind_of_silent fun _ => rfl
  | null | bool _ | int _ | float _ | str _ | arr _ =>
      rfl

end Failure

theorem Object.log_strings {o : Object} {name : String} : (o.strings name).log = [] := by
  refine Traced.log_lift_bind_of_silent fun v => ?_
  rw [Json.log_list, List.flatMap_eq_nil_iff]
  intro w _
  cases w <;> rfl

namespace Reader

variable {β γ : Type} {o : Object} {readers : List Reader} {notices : List Notice}

section Step

variable {r : Reader} {x : Decode β} {k : β → Decode γ}

/-- A run that notes nothing while it reads a property, and something later if the readers that
follow find no fault, notes that if none of the readers finds one. -/
theorem log_bind (hlog : x.log = []) (hfault : errorOf? x.result = r.fault? o)
    (hrest : ∀ b, x.result = .ok b →
      (k b).log = if ∀ r ∈ readers, r.fault? o = none then notices else []) :
    (x >>= k).log = if ∀ r' ∈ r :: readers, r'.fault? o = none then notices else [] := by
  cases hx : x.result with
  | error e =>
      have hfaulty : ¬ ∀ r' ∈ r :: readers, r'.fault? o = none := by
        intro hnone
        have hr := hfault.trans (hnone r List.mem_cons_self)
        rw [hx] at hr
        cases hr
      rw [Traced.log_bind_error hx, hlog, if_neg hfaulty]
  | ok b =>
      have hnone : r.fault? o = none := by
        rw [← hfault, hx]
        rfl
      rw [Traced.log_bind_ok hx, hlog, hrest b hx, List.nil_append]
      simp only [List.forall_mem_cons, hnone, true_and]

end Step

section Properties

variable {name : String} {f : Json → Decoded β} {k : β → Decode γ}

theorem errorOf?_value (hname : ∃ v, o.get? name = some v) :
    errorOf? (o.value name >>= f) = (of name f).fault? o := by
  obtain ⟨v, hv⟩ := hname
  have hvalue : o.value name = .ok v := Object.value_eq_ok_iff.mpr hv
  have hfault : (of name f).fault? o = errorOf? (f v) := by
    simp [fault?, of, hv]
  rw [hvalue, hfault]
  rfl

theorem log_read_bind (hname : ∃ v, o.get? name = some v)
    (hrest : ∀ b, (k b).log = if ∀ r ∈ readers, r.fault? o = none then notices else []) :
    ((liftM (o.value name >>= f) : Decode β) >>= k).log =
      if ∀ r ∈ of name f :: readers, r.fault? o = none then notices else [] :=
  log_bind rfl (errorOf?_value hname) fun b _ => hrest b

theorem log_value_bind (hname : ∃ v, o.get? name = some v)
    (hrest : ∀ b, (k b).log = if ∀ r ∈ readers, r.fault? o = none then notices else []) :
    ((liftM (o.value name) : Decode Json) >>= fun v => (liftM (f v) : Decode β) >>= k).log =
      if ∀ r ∈ of name f :: readers, r.fault? o = none then notices else [] := by
  have hfault : errorOf? ((liftM (o.value name) : Decode Json) >>= fun v =>
      (liftM (f v) : Decode β)).result = (of name f).fault? o := by
    rw [Traced.result_bind, Traced.result_lift]
    exact errorOf?_value hname
  rw [← bind_assoc]
  exact log_bind (Traced.log_lift_bind_of_silent fun _ => rfl) hfault fun b _ => hrest b

theorem log_strings_bind {k : List String → Decode γ} (hname : ∃ v, o.get? name = some v)
    (hrest : ∀ b, (k b).log = if ∀ r ∈ readers, r.fault? o = none then notices else []) :
    (o.strings name >>= k).log =
      if ∀ r ∈ (of name fun v => (v.list name (Json.stringElement name)).result) :: readers,
        r.fault? o = none then notices else [] := by
  have hfault : errorOf? (o.strings name).result =
      (of name fun v => (v.list name (Json.stringElement name)).result).fault? o := by
    rw [Object.result_strings]
    exact errorOf?_value hname
  exact log_bind Object.log_strings hfault fun b _ => hrest b

end Properties

end Reader

namespace Job

/-- The readers of a job that come before those of its history and of its failure. -/
def plainReaders : List Reader :=
  readers.take 16

/-- The elements of the history in an object. -/
def historyItems (o : Object) : List Json :=
  (o.get? "history").elim [] Json.items

/-- What is noted of the history in an object, up to the first event that cannot be decoded. -/
def historyNotes (o : Object) : List Notice :=
  (throughFirst (fun w => (Event.ofJson w).fails) (historyItems o)).flatMap Event.notes

/-- What is noted of the failure in an object. -/
def failureNotes (o : Object) : List Notice :=
  (o.get? "failure").elim [] Failure.notes

/-- What is noted of the records inside a job: of its history if every property that is read before
can be read, and of its failure if the history can be read as well. -/
def innerNotes (o : Object) : List Notice :=
  if ∀ r ∈ plainReaders, r.fault? o = none then
    historyNotes o ++ if historyReader.fault? o = none then failureNotes o else []
  else []

/-- The trace of decoding a value as a job. -/
def trace : Json → List Notice
  | .obj o => if shape.Fits o then shape.unknownNotices o ++ innerNotes o else []
  | _ => []

/-- The trace of decoding an object as a job, if nothing in it is at fault. -/
def fullTrace (o : Object) : List Notice :=
  shape.unknownNotices o ++ (historyItems o).flatMap Event.notes ++ failureNotes o

variable {o : Object} {v : Json}

theorem exists_history (h : shape.Fits o) : ∃ v, o.get? "history" = some v :=
  h.exists_value (by simp [shape])

theorem log_history (h : shape.Fits o) : (o.list "history" Event.ofJson).log = historyNotes o := by
  obtain ⟨v, hv⟩ := exists_history h
  have hvalue : o.value "history" = .ok v := Object.value_eq_ok_iff.mpr hv
  have hrun : o.list "history" Event.ofJson = v.list "history" Event.ofJson := by
    rw [Object.list, hvalue]
    rfl
  rw [hrun, Json.log_list, historyNotes, historyItems, hv]
  simp only [Event.log_ofJson, Option.elim_some]

theorem log_failure_bind {γ : Type} {f : Option Failure → γ} (h : shape.Fits o) :
    ((liftM (o.value "failure") : Decode Json) >>= fun v =>
      Failure.ofJson v >>= fun failure => (pure (f failure) : Decode γ)).log = failureNotes o := by
  have hname : "failure" ∈ shape.names := by simp [shape]
  obtain ⟨v, hv⟩ := h.exists_value hname
  have hvalue : o.value "failure" = .ok v := Object.value_eq_ok_iff.mpr hv
  have hrun : (Failure.ofJson v >>= fun failure => (pure (f failure) : Decode γ)).log =
      (Failure.ofJson v).log := Traced.log_bind_of_silent fun _ => rfl
  rw [hvalue, failureNotes, hv, Option.elim_some, ← Failure.log_ofJson, ← hrun]
  rfl

/-- What is noted while the properties of a job are read. -/
theorem log_draft (h : shape.Fits o) : (draft o).log = innerNotes o := by
  have hvalue : ∀ {name}, name ∈ shape.names → ∃ v, o.get? name = some v :=
    fun hname => h.exists_value hname
  rw [draft, innerNotes, plainReaders, readers_eq]
  refine Reader.log_read_bind (hvalue (by simp [shape])) fun _ => ?_
  refine Reader.log_read_bind (hvalue (by simp [shape])) fun _ => ?_
  refine Reader.log_read_bind (hvalue (by simp [shape])) fun _ => ?_
  refine Reader.log_read_bind (hvalue (by simp [shape])) fun _ => ?_
  refine Reader.log_read_bind (hvalue (by simp [shape])) fun _ => ?_
  refine Reader.log_read_bind (hvalue (by simp [shape])) fun _ => ?_
  refine Reader.log_read_bind (hvalue (by simp [shape])) fun _ => ?_
  refine Reader.log_read_bind (hvalue (by simp [shape])) fun _ => ?_
  refine Reader.log_read_bind (hvalue (by simp [shape])) fun _ => ?_
  refine Reader.log_read_bind (hvalue (by simp [shape])) fun _ => ?_
  refine Reader.log_read_bind (hvalue (by simp [shape])) fun _ => ?_
  refine Reader.log_value_bind (hvalue (by simp [shape])) fun _ => ?_
  refine Reader.log_strings_bind (hvalue (by simp [shape])) fun _ => ?_
  refine Reader.log_strings_bind (hvalue (by simp [shape])) fun _ => ?_
  refine Reader.log_strings_bind (hvalue (by simp [shape])) fun _ => ?_
  refine Reader.log_strings_bind (hvalue (by simp [shape])) fun _ => ?_
  -- All the plain properties can be read, and the history is next.
  rw [List.take_zero, if_pos (List.forall_mem_nil _)]
  have hfault : errorOf? (o.list "history" Event.ofJson).result = historyReader.fault? o := by
    rw [Object.result_list, ← of_history]
    exact Reader.errorOf?_value (exists_history h)
  cases hhistory : (o.list "history" Event.ofJson).result with
  | error e =>
      have hfaulty : historyReader.fault? o ≠ none := by
        rw [← hfault, hhistory]
        exact Option.some_ne_none e
      rw [Traced.log_bind_error hhistory, log_history h, if_neg hfaulty, List.append_nil]
  | ok history =>
      have hnone : historyReader.fault? o = none := by
        rw [← hfault, hhistory]
        rfl
      rw [Traced.log_bind_ok hhistory, log_history h, if_pos hnone]
      exact congrArg (historyNotes o ++ ·) (log_failure_bind h)

/-- What is noted while a value is decoded as a job. -/
theorem log_ofJson (v : Json) : (ofJson v).log = trace v := by
  cases v with
  | obj o =>
      have hrun : (ofJson (.obj o)).log =
          if shape.Fits o then shape.unknownNotices o ++ (draft o).log else [] := by
        refine Shape.log_read_bind.trans ?_
        rw [Traced.log_bind_of_silent fun _ => rfl]
      rw [hrun, trace]
      split_ifs with hfits
      · rw [log_draft hfits]
      · rfl
  | null | bool _ | int _ | float _ | str _ | arr _ =>
      rfl

section Complete

/-- The trace is complete if every property of the job can be read. -/
theorem trace_of_readers (hfits : shape.Fits o) (h : ∀ r ∈ readers, r.fault? o = none) :
    trace (.obj o) = fullTrace o := by
  have hplain : ∀ r ∈ plainReaders, r.fault? o = none :=
    fun r hr => h r (List.mem_of_mem_take hr)
  have hhistory : historyReader.fault? o = none := h _ (by simp [readers, historyReader])
  have hevents : ∀ w ∈ historyItems o, (Event.ofJson w).fails = false := by
    obtain ⟨v, hv⟩ := exists_history hfits
    simp only [historyReader, Reader.fault?, hv, Option.bind_some] at hhistory
    rw [historyItems, hv, Option.elim_some]
    cases v with
    | arr items =>
        rw [Json.listFault?, List.findSome?_eq_none_iff] at hhistory
        exact fun w hw => Traced.fails_eq_false_iff.mpr (hhistory w hw)
    | null | bool _ | int _ | float _ | str _ | obj _ =>
        simp [Json.items]
  rw [trace, if_pos hfits, innerNotes, if_pos hplain, if_pos hhistory, historyNotes,
    throughFirst_of_forall hevents, fullTrace, List.append_assoc]

/-- A job that is accepted, or refused by a rule of its own, has left its complete trace. -/
theorem log_eq_fullTrace {r : Decoded Job} (h : (ofJson (.obj o)).result = r)
    (hr : (∃ j, r = .ok j) ∨ ∃ i, r = .error (.invalid i) ∧ i.record = "Job") :
    (ofJson (.obj o)).log = fullTrace o := by
  rw [log_ofJson]
  cases governs.result_eq_iff.mp h with
  | notObject hne =>
      exact absurd rfl (hne o)
  | absent | null =>
      obtain ⟨_, ⟨⟩⟩ | ⟨_, ⟨⟩, -⟩ := hr
  | misread _ hfirst hfault =>
      obtain ⟨_, ⟨⟩⟩ | ⟨i, ⟨⟩, hrecord⟩ := hr
      obtain ⟨w, -, hw⟩ := Option.bind_eq_some_iff.mp hfault
      exact absurd hrecord (location_of_mem_readers hfirst.mem hw).1
  | refused hfits hreaders | accepted hfits hreaders =>
      exact trace_of_readers hfits hreaders

end Complete

/-- No record inside a job is called a job. -/
theorem silent_inner (hfits : shape.Fits o) (name : String) :
    Notice.ignored shape.record name ∉ innerNotes o := by
  have hevents : ∀ kind : EventKind, kind.shape.record ≠ shape.record := by
    intro kind
    cases kind <;> decide
  rw [← log_draft hfits]
  exact silent_draft (by decide) hevents o name

/-- A property is noted of the job itself once, if it is not declared and every declared one is
there. -/
theorem count_trace (hnames : o.names.Nodup) (name : String) :
    (trace (.obj o)).count (.ignored shape.record name) =
      if shape.Fits o ∧ name ∈ shape.unknown o then 1 else 0 := by
  have hinjective : Function.Injective (Notice.ignored shape.record) :=
    fun _ _ h => (Notice.ignored.inj h).2
  have hunknowns : (shape.unknown o).Nodup := hnames.filter _
  rw [trace]
  split_ifs with hfits hunknown hunknown
  · rw [List.count_append, List.count_eq_zero_of_not_mem (silent_inner hfits name),
      Shape.unknownNotices, List.count_map_of_injective _ _ hinjective,
      List.count_eq_one_of_mem hunknowns hunknown.2]
  · have hnot : name ∉ shape.unknown o := fun hmem => hunknown ⟨hfits, hmem⟩
    rw [List.count_append, List.count_eq_zero_of_not_mem (silent_inner hfits name),
      Shape.unknownNotices, List.count_map_of_injective _ _ hinjective,
      List.count_eq_zero_of_not_mem hnot]
  · exact absurd hunknown.1 hfits
  · rfl

/-- The trace of decoding a job is determined by what its objects say and by the first read that
fails: it has every undeclared property of the job itself once, it is complete unless a property
cannot be read, and a list of jobs has the traces of its elements up to the first that fails. -/
theorem log_traces (v : Json) :
    (ofJson v).log = trace v ∧
      (∀ (o : Object) r, v = .obj o → (ofJson v).result = r →
        ((∃ j, r = .ok j) ∨ ∃ i, r = .error (.invalid i) ∧ i.record = "Job") →
        (ofJson v).log = fullTrace o) ∧
      (∀ o : Object, v = .obj o → o.names.Nodup → ∀ name,
        (ofJson v).log.count (.ignored "job" name) =
          if shape.Fits o ∧ name ∈ shape.unknown o then 1 else 0) ∧
      ∀ name, (listOfJson name v).log =
        (throughFirst (fun w => (ofJson w).fails) v.items).flatMap trace := by
  refine ⟨log_ofJson v, ?_, ?_, fun name => ?_⟩
  · rintro o r rfl h hr
    exact log_eq_fullTrace h hr
  · rintro o rfl hnames name
    rw [log_ofJson]
    exact count_trace hnames name
  · rw [listOfJson, Json.log_list]
    simp only [log_ofJson]

/-- A job with undeclared properties in each of its records, and with more attempts left than it was
ever to have. -/
def talkative : Object :=
  [("shard", .int 3), ("retries", .int 1), ("remaining", .int 9), ("tags", .arr []),
    ("jid", .str "jid-1"), ("klass", .str "SendEmail"), ("data", .str "7"), ("zone", .null),
    ("queue", .str "emails"), ("worker", .null), ("state", .str "failed"), ("priority", .int 0),
    ("expires", .int 0), ("tracked", .bool false), ("spawned_from_jid", .bool false),
    ("dependencies", .obj []), ("dependents", .obj []), ("throttles", .obj []),
    ("history", .arr
      [.obj [("host", .str "h-1"), ("what", .str "popped"), ("when", .int 3),
          ("worker", .str "w-1")],
        .obj [("what", .str "scaled"), ("when", .int 4), ("by", .int 2)]]),
    ("failure", .obj [("group", .str "timeout"), ("message", .str "late"), ("when", .int 2),
      ("worker", .str "w-1"), ("stack", .str "...")])]

/-- The same job with a history in which the second event does not say when it happened. -/
def interrupted : Object :=
  Object.set "history" (.arr
    [.obj [("what", .str "done"), ("when", .int 3), ("host", .null)],
      .obj [("what", .str "done"), ("host", .null)],
      .obj [("what", .str "done"), ("when", .int 5), ("host", .null)]]) talkative

/-- The job that is refused as a whole leaves its complete trace, and a list is left at the first of
its jobs that cannot be decoded. -/
theorem log_talkative :
    (ofJson (.obj talkative)).result =
        .error (.invalid ⟨"Job", "Job", .remainingAboveRetries 1⟩) ∧
      (ofJson (.obj talkative)).log = fullTrace talkative ∧
      fullTrace talkative =
        [.ignored "job" "shard", .ignored "job" "zone", .ignored "popped event" "host",
          .ignored "failure" "stack"] ∧
      (ofJson (.obj talkative)).log.count (.ignored "job" "zone") = 1 ∧
      (listOfJson "jobs" (.arr [.obj interrupted, .obj talkative])).log =
        [.ignored "job" "shard", .ignored "job" "zone", .ignored "done event" "host"] := by
  have hrun : (ofJson (.obj talkative)).result =
      .error (.invalid ⟨"Job", "Job", .remainingAboveRetries 1⟩) := by decide +kernel
  have hnotices : fullTrace talkative =
      [.ignored "job" "shard", .ignored "job" "zone", .ignored "popped event" "host",
        .ignored "failure" "stack"] := by decide +kernel
  obtain ⟨-, hfull, hcount, -⟩ := log_traces (.obj talkative)
  obtain ⟨-, -, -, hlist⟩ := log_traces (.arr [.obj interrupted, .obj talkative])
  refine ⟨hrun, hfull _ _ rfl hrun (.inr ⟨_, rfl, rfl⟩), hnotices, ?_, ?_⟩
  · rw [hcount _ rfl (by decide), if_pos (by decide +kernel)]
  · rw [hlist]
    decide +kernel

end Job
end JobWire
