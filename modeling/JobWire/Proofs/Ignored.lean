import JobWire.Proofs.Agreement

/-!
# Properties that are noted as ignored

A record declares the properties that it checks, and notes the others as ignored.  For each record
but one these are not looked at any more: they may be dropped or replaced without an effect.  The
exception is the property `fairly` of a priority pattern.  It is noted as ignored like any other
that is not declared, and is read after all.

**Results.**
* `RecordKind.checks_of_mem_log`: what a notice about a record says of the object.
* `RecordKind.result_ofJson_congr`: what decoding a record depends on.
* `RecordKind.ignores_iff_of_mem_log`: a property that is noted as ignored has no effect, unless it
  is `fairly` in a priority pattern whose list of patterns can be read.
-/

namespace JobWire

namespace Traced

/-- The run notes no property of a record as ignored. -/
def Silent {ε α : Type} (record : String) (x : Traced ε α) : Prop :=
  ∀ name, Notice.ignored record name ∉ x.log

section Silent

variable {ε α β : Type} {record : String} {n : Notice} {x : Traced ε α} {f : α → Traced ε β}

theorem mem_log_bind (h : n ∈ (x >>= f).log) :
    n ∈ x.log ∨ ∃ a, x.result = .ok a ∧ n ∈ (f a).log := by
  cases hx : x.result with
  | ok a =>
      rw [log_bind_ok hx, List.mem_append] at h
      exact h.imp_right fun hf => ⟨a, rfl, hf⟩
  | error e =>
      rw [log_bind_error hx] at h
      exact .inl h

theorem silent_pure {a : α} : (pure a : Traced ε α).Silent record :=
  fun _ => List.not_mem_nil

theorem silent_lift {r : Except ε α} : (liftM r : Traced ε α).Silent record :=
  fun _ => List.not_mem_nil

theorem silent_liftBuilt {b : Built α} : (liftM b : Decode α).Silent record :=
  fun _ => List.not_mem_nil

theorem silent_bind (hx : x.Silent record) (hf : ∀ a, (f a).Silent record) :
    (x >>= f).Silent record := by
  intro name h
  rcases mem_log_bind h with hlog | ⟨a, -, hlog⟩
  · exact hx name hlog
  · exact hf a name hlog

theorem silent_each (hf : ∀ a, (f a).Silent record) (as : List α) : (each f as).Silent record := by
  induction as with
  | nil =>
      exact silent_pure
  | cons a as ih =>
      exact silent_bind (hf a) fun _ => silent_bind ih fun _ => silent_pure

end Silent

end Traced

section Readers

variable {α : Type} {record name : String} {item : Json → Decode α} {o : Object} {s : Shape}

theorem Object.silent_list (h : ∀ v, (item v).Silent record) : (o.list name item).Silent record :=
  Traced.silent_bind Traced.silent_lift fun _ =>
    Traced.silent_bind Traced.silent_lift fun items => Traced.silent_each h items

theorem Object.silent_strings : (o.strings name).Silent record :=
  silent_list fun v => by cases v <;> exact fun _ => List.not_mem_nil

theorem Object.silent_ints : (o.ints name).Silent record :=
  silent_list fun v => by cases v <;> exact fun _ => List.not_mem_nil

/-- What a check notes are the properties that are not declared, if every declared one is there. -/
theorem Shape.mem_log_read {n : Notice} (h : n ∈ (s.read (.obj o)).log) :
    s.Fits o ∧ ∃ k ∈ s.unknown o, n = .ignored s.record k := by
  rw [read_obj] at h
  cases hfault : s.firstFault? o with
  | none =>
      rw [hfault] at h
      obtain ⟨k, hk, rfl⟩ := List.mem_map.mp h
      exact ⟨firstFault?_eq_none_iff.mp hfault, k, hk, rfl⟩
  | some e =>
      rw [hfault] at h
      cases h

theorem Shape.silent_read (h : s.record ≠ record) (v : Json) : (s.read v).Silent record := by
  intro k hlog
  cases v with
  | obj members =>
      obtain ⟨-, _, -, heq⟩ := mem_log_read hlog
      cases heq
      exact h rfl
  | null | bool _ | int _ | float _ | str _ | arr _ =>
      cases hlog

/-- A property that is noted of a record is one that its object has and its shape does not declare,
if what follows the check notes nothing of the record. -/
theorem Shape.unknown_of_mem_log {f : Object → Decode α} {k : String}
    (hf : ∀ o, (f o).Silent s.record)
    (h : Notice.ignored s.record k ∈ (s.read (.obj o) >>= f).log) :
    s.Fits o ∧ k ∈ s.unknown o := by
  rcases Traced.mem_log_bind h with hlog | ⟨p, -, hlog⟩
  · obtain ⟨hfits, _, hk, heq⟩ := mem_log_read hlog
    cases heq
    exact ⟨hfits, hk⟩
  · exact absurd hlog (hf p k)

/-- The same of a record that is built from what is read of the declared properties. -/
theorem Shape.unknown_of_mem_log_build {δ : Type} {draft : Object → Decode δ}
    {build : δ → Built α} {k : String} (hdraft : ∀ o, (draft o).Silent s.record)
    (h : Notice.ignored s.record k ∈
      (s.read (.obj o) >>= fun o => draft o >>= fun d => (liftM (build d) : Decode α)).log) :
    s.Fits o ∧ k ∈ s.unknown o :=
  unknown_of_mem_log (fun p => Traced.silent_bind (hdraft p) fun _ => Traced.silent_liftBuilt) h

end Readers

section Records

variable {record k : String} {o : Object}

theorem Failure.silent_ofJson (h : shape.record ≠ record) (v : Json) :
    (ofJson v).Silent record := by
  cases v with
  | obj members =>
      cases members with
      | nil =>
          exact Traced.silent_pure
      | cons m ms =>
          refine Traced.silent_bind (Shape.silent_read h _) fun _ => ?_
          refine Traced.silent_bind Traced.silent_lift fun _ => ?_
          exact Traced.silent_bind Traced.silent_liftBuilt fun _ => Traced.silent_pure
  | null | bool _ | int _ | float _ | str _ | arr _ =>
      exact fun _ => List.not_mem_nil

theorem EventKind.silent_decode {kind : EventKind} (h : kind.shape.record ≠ record) (o : Object) :
    (kind.decode o).Silent record :=
  Traced.silent_bind (Shape.silent_read h _) fun _ =>
    Traced.silent_bind Traced.silent_lift fun _ => Traced.silent_liftBuilt

theorem Event.silent_decodeLog {what : String} (o : Object) :
    (decodeLog what o).Silent record := by
  refine Traced.silent_bind Traced.silent_lift fun stamp => ?_
  split_ifs
  · exact Traced.silent_bind (fun _ => List.not_mem_nil) fun _ =>
      Traced.silent_bind Traced.silent_lift fun _ => Traced.silent_liftBuilt
  · exact Traced.silent_bind Traced.silent_lift fun _ => Traced.silent_liftBuilt

theorem Event.silent_ofJson (h : ∀ kind : EventKind, kind.shape.record ≠ record) (v : Json) :
    (ofJson v).Silent record := by
  refine Traced.silent_bind Traced.silent_lift fun o => ?_
  refine Traced.silent_bind Traced.silent_lift fun what => ?_
  cases EventKind.ofName? what with
  | some kind =>
      exact EventKind.silent_decode (h kind) o
  | none =>
      exact silent_decodeLog o

theorem PhaseStats.silent_draft (o : Object) : (draft o).Silent record := by
  iterate 3 refine Traced.silent_bind Traced.silent_lift fun _ => ?_
  exact Traced.silent_bind Object.silent_ints fun _ => Traced.silent_pure

theorem PhaseStats.silent_ofJson (h : shape.record ≠ record) (v : Json) :
    (ofJson v).Silent record :=
  Traced.silent_bind (Shape.silent_read h v) fun o =>
    Traced.silent_bind (silent_draft o) fun _ => Traced.silent_liftBuilt

theorem QueueStats.silent_draft (h : PhaseStats.shape.record ≠ record) (o : Object) :
    (draft o).Silent record := by
  iterate 3 refine Traced.silent_bind Traced.silent_lift fun _ => ?_
  iterate 2
    refine Traced.silent_bind Traced.silent_lift fun _ => ?_
    refine Traced.silent_bind (PhaseStats.silent_ofJson h _) fun _ => ?_
  exact Traced.silent_pure

theorem RecurringJob.silent_draft (o : Object) : (draft o).Silent record := by
  iterate 10 refine Traced.silent_bind Traced.silent_lift fun _ => ?_
  iterate 2 refine Traced.silent_bind Object.silent_strings fun _ => ?_
  exact Traced.silent_pure

theorem PriorityPattern.silent_draft (o : Object) : (draft o).Silent record :=
  Traced.silent_bind Object.silent_strings fun _ =>
    Traced.silent_bind Traced.silent_lift fun _ => Traced.silent_pure

theorem Job.silent_draft (hfailure : Failure.shape.record ≠ record)
    (hevents : ∀ kind : EventKind, kind.shape.record ≠ record) (o : Object) :
    (draft o).Silent record := by
  -- Only the history and the failure hold records; the others are single values and lists.
  iterate 13 refine Traced.silent_bind Traced.silent_lift fun _ => ?_
  iterate 4 refine Traced.silent_bind Object.silent_strings fun _ => ?_
  refine Traced.silent_bind (Object.silent_list (Event.silent_ofJson hevents)) fun _ => ?_
  refine Traced.silent_bind Traced.silent_lift fun _ => ?_
  exact Traced.silent_bind (Failure.silent_ofJson hfailure _) fun _ => Traced.silent_pure

section Fairly

variable {p : Object} {patterns : List String} {e : DecodeError} {v : Json}

/-- A priority pattern is asked whether it is fair as soon as its patterns are read. -/
theorem PriorityPattern.result_ofJson (hfits : shape.Fits o) :
    (ofJson (.obj o)).result = (o.strings "pattern").result >>= fun patterns =>
      readFairly o >>= fun fairly =>
        (PriorityPatternDraft.build ⟨some patterns, fairly⟩).mapError DecodeError.invalid := by
  have hread : (shape.read (.obj o)).result = .ok o := Shape.result_read_eq_ok_iff.mpr ⟨rfl, hfits⟩
  rw [ofJson, Traced.result_bind, hread]
  change (draft o >>= fun d => (liftM d.build : Decode PriorityPattern)).result = _
  simp only [draft, bind_assoc, pure_bind, Traced.result_bind]
  rfl

theorem PriorityPattern.strings_congr (h : Object.AgreeOn shape.names o p) :
    o.strings "pattern" = p.strings "pattern" := by
  have hvalue : o.value "pattern" = p.value "pattern" := h.value "pattern" List.mem_cons_self
  rw [Object.strings, Object.strings, Object.list, Object.list, hvalue]

/-- Patterns that cannot be read are reported whatever else the object says. -/
theorem PriorityPattern.result_ofJson_of_error (hfits : shape.Fits o)
    (h : Object.AgreeOn shape.names o p) (herror : (o.strings "pattern").result = .error e) :
    (ofJson (.obj p)).result = .error e := by
  rw [strings_congr h] at herror
  rw [result_ofJson (h.fits hfits), herror]
  rfl

theorem PriorityPattern.result_set_fairly (h : (o.strings "pattern").result = .ok patterns) :
    (ofJson (.obj (Object.set "fairly" v o))).result = v.asBool "fairly" >>= fun fairly =>
      (PriorityPatternDraft.build ⟨some patterns, fairly⟩).mapError DecodeError.invalid := by
  have hagree : Object.AgreeOn shape.names o (Object.set "fairly" v o) :=
    Object.agreeOn_set (by decide)
  rw [strings_congr hagree] at h
  have hfits : shape.Fits (Object.set "fairly" v o) :=
    List.forall_mem_singleton.mpr (Object.result_strings_eq_ok_iff.mp h).fits
  have hfairly : readFairly (Object.set "fairly" v o) = v.asBool "fairly" := by
    unfold readFairly
    rw [Object.get?_set_self]
  rw [result_ofJson hfits, h, hfairly]
  rfl

/-- Once its patterns are read, a priority pattern is refused for a `fairly` that is null, and it is
never refused for that reason with a truth value. -/
theorem PriorityPattern.result_set_fairly_ne (h : (o.strings "pattern").result = .ok patterns) :
    (ofJson (.obj (Object.set "fairly" .null o))).result ≠
      (ofJson (.obj (Object.set "fairly" (.bool true) o))).result := by
  rw [result_set_fairly h, result_set_fairly h]
  change .error (Json.wrongShape "fairly" "boolean" .null) ≠
    (PriorityPatternDraft.build ⟨some patterns, true⟩).mapError DecodeError.invalid
  cases PriorityPatternDraft.build ⟨some patterns, true⟩ with
  | ok pattern =>
      exact nofun
  | error i =>
      exact nofun

end Fairly

end Records

/-- The records whose declared properties are checked. -/
inductive RecordKind where
  | job | recurringJob | failure | event (kind : EventKind) | queueCounts | phaseStats
  | queueStats | workerCounts | throttle | priorityPattern
deriving DecidableEq

namespace RecordKind

/-- What a record of a kind is decoded into. -/
def Model : RecordKind → Type
  | job => Job
  | recurringJob => RecurringJob
  | failure => Option Failure
  | event _ => Event
  | queueCounts => QueueCounts
  | phaseStats => PhaseStats
  | queueStats => QueueStats
  | workerCounts => WorkerCounts
  | throttle => Throttle
  | priorityPattern => PriorityPattern

/-- The declared properties of a record. -/
def shape : RecordKind → Shape
  | job => Job.shape
  | recurringJob => RecurringJob.shape
  | failure => Failure.shape
  | event kind => kind.shape
  | queueCounts => QueueCounts.shape
  | phaseStats => PhaseStats.shape
  | queueStats => QueueStats.shape
  | workerCounts => WorkerCounts.shape
  | throttle => Throttle.shape
  | priorityPattern => PriorityPattern.shape

/-- The decoder of a record. -/
def ofJson : (r : RecordKind) → Json → Decode r.Model
  | job => Job.ofJson
  | recurringJob => RecurringJob.ofJson
  | failure => Failure.ofJson
  | event _ => Event.ofJson
  | queueCounts => QueueCounts.ofJson
  | phaseStats => PhaseStats.ofJson
  | queueStats => QueueStats.ofJson
  | workerCounts => WorkerCounts.ofJson
  | throttle => Throttle.ofJson
  | priorityPattern => PriorityPattern.ofJson

/-- The object is checked as the record, and has each declared property. -/
def Checks (r : RecordKind) (o : Object) : Prop :=
  r.shape.Fits o ∧ ∀ kind, r = event kind → o.get? "what" = some (.str kind.name)

/-- The decoder takes the object for the record: an object is an event of a kind by what it says,
and a failure unless it is empty. -/
def Takes : RecordKind → Object → Prop
  | failure, o => o ≠ []
  | event kind, o => o.get? "what" = some (.str kind.name)
  | _, _ => True

/-- The property can be given any value, and be removed, without an effect on what is decoded. -/
def Ignores (r : RecordKind) (o : Object) (k : String) : Prop :=
  (∀ w, (r.ofJson (.obj (Object.set k w o))).result = (r.ofJson (.obj o)).result) ∧
    (r.ofJson (.obj (o.without k))).result = (r.ofJson (.obj o)).result

variable {r : RecordKind} {o p : Object} {k : String}

theorem event_of_mem_log {kind : EventKind}
    (h : Notice.ignored kind.shape.record k ∈ (Event.ofJson (.obj o)).log) :
    o.get? "what" = some (.str kind.name) := by
  rcases Traced.mem_log_bind h with hobject | ⟨_, ⟨⟩, h⟩
  · cases hobject
  rcases Traced.mem_log_bind h with hwhat | ⟨what, hwhat, h⟩
  · cases hwhat
  cases hkind : EventKind.ofName? what with
  | none =>
      rw [hkind] at h
      exact absurd h (Event.silent_decodeLog o k)
  | some found =>
      rw [hkind] at h
      -- The kinds have records of different names, so the notice tells them apart.
      have hrecord : found.shape.record = kind.shape.record := by
        by_contra hne
        exact EventKind.silent_decode hne o k h
      have hfound : found = kind := by
        revert hrecord
        cases found <;> cases kind <;> simp [EventKind.shape]
      rw [Object.what_eq_ok_iff.mp hwhat, ← EventKind.ofName?_eq_some_iff.mp hkind, hfound]

theorem fits_of_mem_log (h : Notice.ignored r.shape.record k ∈ (r.ofJson (.obj o)).log) :
    r.shape.Fits o ∧ k ∈ r.shape.unknown o := by
  cases r with
  | job =>
      have hevents : ∀ kind : EventKind, kind.shape.record ≠ Job.shape.record := by
        intro kind
        cases kind <;> decide
      exact Shape.unknown_of_mem_log_build (Job.silent_draft (by decide) hevents) h
  | recurringJob =>
      exact Shape.unknown_of_mem_log_build RecurringJob.silent_draft h
  | failure =>
      cases o with
      | nil =>
          cases h
      | cons m ms =>
          refine Shape.unknown_of_mem_log (fun p => ?_) h
          refine Traced.silent_bind Traced.silent_lift fun _ => ?_
          exact Traced.silent_bind Traced.silent_liftBuilt fun _ => Traced.silent_pure
  | event kind =>
      have hrun := Event.ofJson_obj_of_what (event_of_mem_log h)
      have hlog : Notice.ignored kind.shape.record k ∈ (kind.decode o).log := hrun ▸ h
      exact Shape.unknown_of_mem_log_build (fun _ => Traced.silent_lift) hlog
  | queueCounts =>
      exact Shape.unknown_of_mem_log_build (fun _ => Traced.silent_lift) h
  | phaseStats =>
      exact Shape.unknown_of_mem_log_build PhaseStats.silent_draft h
  | queueStats =>
      exact Shape.unknown_of_mem_log_build (QueueStats.silent_draft (by decide)) h
  | workerCounts =>
      exact Shape.unknown_of_mem_log_build (fun _ => Traced.silent_lift) h
  | throttle =>
      exact Shape.unknown_of_mem_log_build (fun _ => Traced.silent_lift) h
  | priorityPattern =>
      exact Shape.unknown_of_mem_log_build PriorityPattern.silent_draft h

/-- A notice about a record is about an object that is checked as the record, and about a property
that the record does not declare. -/
theorem checks_of_mem_log (h : Notice.ignored r.shape.record k ∈ (r.ofJson (.obj o)).log) :
    r.Checks o ∧ k ∈ r.shape.unknown o := by
  obtain ⟨hfits, hk⟩ := fits_of_mem_log h
  refine ⟨⟨hfits, ?_⟩, hk⟩
  rintro kind rfl
  exact event_of_mem_log h

theorem Checks.takes (h : r.Checks o) : r.Takes o := by
  obtain ⟨hfits, hevent⟩ := h
  cases r with
  | failure =>
      rintro rfl
      have hgroup : "group" ∈ Failure.shape.names := List.mem_cons_self
      obtain ⟨_, hget⟩ := hfits.exists_value hgroup
      cases hget
  | event kind =>
      exact hevent kind rfl
  | job | recurringJob | queueCounts | phaseStats | queueStats | workerCounts | throttle
  | priorityPattern =>
      trivial

theorem Checks.congr (ho : r.Checks o) (h : Object.AgreeOn r.shape.names o p) : r.Checks p := by
  refine ⟨h.fits ho.1, ?_⟩
  rintro kind rfl
  rw [← h "what" kind.what_mem_names]
  exact ho.2 kind rfl

/-- Decoding an object that is taken for a record depends on the declared properties, and on
`fairly` for a priority pattern. -/
theorem result_ofJson_congr (ho : r.Takes o) (hp : r.Takes p)
    (h : Object.AgreeOn r.shape.names o p)
    (hfairly : r = priorityPattern → o.get? "fairly" = p.get? "fairly") :
    (r.ofJson (.obj o)).result = (r.ofJson (.obj p)).result := by
  cases r with
  | job =>
      exact Job.result_ofJson_congr h
  | recurringJob =>
      exact RecurringJob.result_ofJson_congr h
  | failure =>
      exact Failure.result_ofJson_congr ho hp h
  | event kind =>
      exact Event.result_ofJson_congr ho h
  | queueCounts =>
      exact QueueCounts.result_ofJson_congr h
  | phaseStats =>
      exact PhaseStats.result_ofJson_congr h
  | queueStats =>
      exact QueueStats.result_ofJson_congr h
  | workerCounts =>
      exact WorkerCounts.result_ofJson_congr h
  | throttle =>
      exact Throttle.result_ofJson_congr h
  | priorityPattern =>
      exact PriorityPattern.result_ofJson_congr h (hfairly rfl)

/-- A property is ignored if what is decoded is the same for all objects that differ in it alone. -/
theorem ignores_of_forall
    (h : ∀ p : Object, (∀ name, name ≠ k → o.get? name = p.get? name) →
      (r.ofJson (.obj o)).result = (r.ofJson (.obj p)).result) : r.Ignores o k :=
  ⟨fun _ => (h _ fun _ hne => (Object.get?_set_of_ne hne).symm).symm,
    (h _ fun _ hne => (Object.get?_without_of_ne hne).symm).symm⟩

theorem ignores_of_not_mem (hchecks : r.Checks o) (hk : k ∉ r.shape.names)
    (hfairly : r = priorityPattern → k ≠ "fairly") : r.Ignores o k := by
  refine ignores_of_forall fun p hp => ?_
  have hdeclared : Object.AgreeOn r.shape.names o p :=
    fun name hname => hp name fun heq => hk (heq ▸ hname)
  exact result_ofJson_congr hchecks.takes (hchecks.congr hdeclared).takes hdeclared
    fun hr => hp "fairly" (hfairly hr).symm

/-- The patterns of a priority pattern are read first, so a fault of theirs hides `fairly`. -/
theorem ignores_fairly_of_error {e : DecodeError} (hfits : PriorityPattern.shape.Fits o)
    (h : (o.strings "pattern").result = .error e) : priorityPattern.Ignores o "fairly" := by
  refine ignores_of_forall fun p hp => ?_
  have hpattern : Object.AgreeOn PriorityPattern.shape.names o p :=
    List.forall_mem_singleton.mpr (hp "pattern" (by decide))
  have hself : Object.AgreeOn PriorityPattern.shape.names o o := fun _ _ => rfl
  exact (PriorityPattern.result_ofJson_of_error hfits hself h).trans
    (PriorityPattern.result_ofJson_of_error hfits hpattern h).symm

/-- A property that is noted as ignored is ignored, unless it is the property `fairly` of a priority
pattern whose list of patterns can be read. -/
theorem ignores_iff_of_mem_log (h : Notice.ignored r.shape.record k ∈ (r.ofJson (.obj o)).log) :
    r.Ignores o k ↔
      ¬ (r = priorityPattern ∧ k = "fairly" ∧
        ∃ patterns, (o.strings "pattern").result = .ok patterns) := by
  obtain ⟨hchecks, hunknown⟩ := checks_of_mem_log h
  obtain ⟨-, hk⟩ := Shape.mem_unknown_iff.mp hunknown
  constructor
  · rintro ⟨hset, -⟩ ⟨rfl, rfl, patterns, hpatterns⟩
    exact PriorityPattern.result_set_fairly_ne hpatterns ((hset .null).trans (hset _).symm)
  · intro hread
    by_cases hfairly : r = priorityPattern ∧ k = "fairly"
    · obtain ⟨rfl, rfl⟩ := hfairly
      cases hpatterns : (o.strings "pattern").result with
      | ok patterns =>
          exact absurd ⟨rfl, rfl, patterns, hpatterns⟩ hread
      | error e =>
          exact ignores_fairly_of_error hchecks.1 hpatterns
    · exact ignores_of_not_mem hchecks hk fun hr hname => hfairly ⟨hr, hname⟩

/-- A priority pattern that is fair. -/
def fairPattern : Object :=
  [("pattern", .arr [.str "a"]), ("fairly", .bool true)]

/-- The property `fairly` is noted as ignored, and without it the pattern is not fair. -/
theorem fairly_is_not_ignored :
    Notice.ignored priorityPattern.shape.record "fairly" ∈
        (priorityPattern.ofJson (.obj fairPattern)).log ∧
      (PriorityPattern.ofJson (.obj fairPattern)).result = .ok ⟨["a"], true⟩ ∧
      (PriorityPattern.ofJson (.obj (fairPattern.without "fairly"))).result = .ok ⟨["a"], false⟩ ∧
      ¬ priorityPattern.Ignores fairPattern "fairly" := by
  have hfair : (PriorityPattern.ofJson (.obj fairPattern)).result = .ok ⟨["a"], true⟩ := by decide
  have hunfair : (PriorityPattern.ofJson (.obj (fairPattern.without "fairly"))).result =
      .ok ⟨["a"], false⟩ := by decide
  refine ⟨by decide, hfair, hunfair, ?_⟩
  rintro ⟨-, hwithout⟩
  have hsame := hunfair.symm.trans (hwithout.trans hfair)
  cases hsame

/-- A worker's counts with a property that they do not declare. -/
def namedCounts : Object :=
  [("jobs", .int 2), ("host", .null), ("name", .str "w-1"), ("stalled", .int 0)]

theorem host_is_ignored :
    Notice.ignored workerCounts.shape.record "host" ∈
        (workerCounts.ofJson (.obj namedCounts)).log ∧
      workerCounts.Ignores namedCounts "host" := by
  have hnoted : Notice.ignored workerCounts.shape.record "host" ∈
      (workerCounts.ofJson (.obj namedCounts)).log := by decide
  exact ⟨hnoted, (ignores_iff_of_mem_log hnoted).mpr fun ⟨hkind, _⟩ => nomatch hkind⟩

end RecordKind

end JobWire
