import JobWire.Proofs.Refusal

/-!
# How envelopes are settled

An envelope has two properties, and settles them one after the other.  Its lists are not read by the
decoder of lists, but by one of their own, so that what is wrong inside a list is reported of the
list as a whole.

What an envelope makes of a list is said here in terms of the *plain* decoder, which reads such a
list everywhere else.  The two accept the same lists, and refuse an object in place of a list with
the same error.  The plain error of an element becomes the cause of a failure of the list, and the
cause itself has none.

**Results.**
* `Object.result_envelopeList_eq_iff`: what an envelope makes of a list, by the plain decoder.
* `inOrder_iff`: two runs in sequence, by what each of them yields.
* `EnvelopeKind.settled_in_order`: what is made of an envelope, by what is made of its properties.
-/

namespace JobWire

/-- What two verdicts come to, of which the second is sought only if the first is no error. -/
inductive InOrder {ε α β γ : Type} (P : Except ε α → Prop) (Q : Except ε β → Prop)
    (f : α → β → γ) : Except ε γ → Prop
  | first {e : ε} :
      P (.error e) →
      InOrder P Q f (.error e)
  | second {a : α} {e : ε} :
      P (.ok a) →
      Q (.error e) →
      InOrder P Q f (.error e)
  | both {a : α} {b : β} :
      P (.ok a) →
      Q (.ok b) →
      InOrder P Q f (.ok (f a b))

section Order

variable {ε α β γ : Type} {P : Except ε α → Prop} {Q : Except ε β → Prop} {f : α → β → γ}

theorem inOrder_iff {x : Except ε α} {y : Except ε β} {r : Except ε γ}
    (hx : ∀ r, x = r ↔ P r) (hy : ∀ r, y = r ↔ Q r) :
    (x >>= fun a => y >>= fun b => pure (f a b)) = r ↔ InOrder P Q f r := by
  constructor
  · rintro rfl
    cases hfirst : x with
    | error e =>
        exact .first ((hx _).mp hfirst)
    | ok a =>
        cases hsecond : y with
        | error e =>
            exact .second ((hx _).mp hfirst) ((hy _).mp hsecond)
        | ok b =>
            exact .both ((hx _).mp hfirst) ((hy _).mp hsecond)
  · intro h
    cases h with
    | first hfirst =>
        rw [(hx _).mpr hfirst]
        rfl
    | second hfirst hsecond =>
        rw [(hx _).mpr hfirst, (hy _).mpr hsecond]
        rfl
    | both hfirst hsecond =>
        rw [(hx _).mpr hfirst, (hy _).mpr hsecond]
        rfl

theorem exists_inOrder_ok_iff :
    (∃ c, InOrder P Q f (.ok c)) ↔ (∃ a, P (.ok a)) ∧ ∃ b, Q (.ok b) := by
  constructor
  · rintro ⟨c, h⟩
    cases h with
    | both hfirst hsecond =>
        exact ⟨⟨_, hfirst⟩, ⟨_, hsecond⟩⟩
  · rintro ⟨⟨a, hfirst⟩, ⟨b, hsecond⟩⟩
    exact ⟨_, .both hfirst hsecond⟩

end Order

namespace Object

/-- The error of a property that an envelope lacks. -/
def lacks (name : String) : DecodeError :=
  .missing name (some ("Expected '" ++ name ++ "' property in JSON object, but none was found."))

/-- What an envelope makes of a list, by what a plain decoder makes of it. -/
inductive ListVerdict {α : Type} (o : Object) (name typeName : String)
    (plain : Json → Decoded (List α)) : Decoded (List α) → Prop
  | absent :
      o.get? name = none →
      ListVerdict o name typeName plain (.error (lacks name))
  | notList {v : Json} :
      o.get? name = some v →
      (∀ items, v ≠ .arr items) →
      (∀ p, v ≠ .obj p) →
      ListVerdict o name typeName plain (.error (.nested name typeName))
  | members {p : Object} :
      o.get? name = some (.obj p) →
      p ≠ [] →
      plain (.obj p) = .error (.nonEmptyObject name p.length) →
      ListVerdict o name typeName plain (.error (.nonEmptyObject name p.length))
  | element {items : List Json} {e : DecodeError} :
      o.get? name = some (.arr items) →
      plain (.arr items) = .error e →
      ListVerdict o name typeName plain (.error (.nestedElement name typeName e))
  | list {v : Json} {as : List α} :
      o.get? name = some v →
      plain v = .ok as →
      ListVerdict o name typeName plain (.ok as)

/-- What an envelope makes of a list of jids. -/
def JidsVerdict (o : Object) (name : String) : Decoded (List String) → Prop :=
  o.ListVerdict name "string[]" fun v => (v.list name (Json.stringElement name)).result

/-- What an envelope makes of an integer. -/
inductive IntVerdict (o : Object) (name : String) : Decoded Int → Prop
  | absent :
      o.get? name = none →
      IntVerdict o name (.error (lacks name))
  | notInteger {v : Json} :
      o.get? name = some v →
      (∀ i, v ≠ .int i) →
      IntVerdict o name (.error (v.wrongShape name "integer"))
  | integer {i : Int} :
      o.get? name = some (.int i) →
      IntVerdict o name (.ok i)

section Settling

variable {α : Type} {o : Object} {name typeName : String} {item : Json → Decode α}
  {plain : Json → Decoded (List α)}

theorem require_of_absent (h : o.get? name = none) : o.require name = .error (lacks name) := by
  rw [require, h]
  rfl

theorem result_envelopeList_of_verdict {r : Decoded (List α)}
    (h : o.ListVerdict name typeName (fun v => (v.list name item).result) r) :
    (o.envelopeList name typeName item).result = r := by
  cases h with
  | absent hget =>
      rw [envelopeList, require_of_absent hget]
      rfl
  | @notList v hget hitems hmembers =>
      rw [envelopeList, require_eq_ok_iff.mpr hget]
      cases v with
      | arr items =>
          exact absurd rfl (hitems items)
      | obj p =>
          exact absurd rfl (hmembers p)
      | null | bool _ | int _ | float _ | str _ =>
          rfl
  | @members p hget hne hplain =>
      rw [envelopeList, require_eq_ok_iff.mpr hget]
      cases p with
      | nil =>
          exact absurd rfl hne
      | cons m ms =>
          rfl
  | element hget hplain =>
      rw [Json.list_arr] at hplain
      rw [envelopeList_of_arr hget, Traced.mapError, hplain]
      rfl
  | list hget hplain =>
      exact result_envelopeList_eq_ok_iff.mpr (result_list_eq_ok_iff.mpr ⟨_, hget, hplain⟩)

theorem exists_listVerdict :
    ∃ r, o.ListVerdict name typeName (fun v => (v.list name item).result) r := by
  cases hget : o.get? name with
  | none =>
      exact ⟨_, .absent hget⟩
  | some v =>
      cases v with
      | null | bool _ | int _ | float _ | str _ =>
          exact ⟨_, .notList hget nofun nofun⟩
      | arr items =>
          cases hplain : ((Json.arr items).list name item).result with
          | ok as =>
              exact ⟨_, .list hget hplain⟩
          | error e =>
              exact ⟨_, .element hget hplain⟩
      | obj p =>
          cases p with
          | nil =>
              exact ⟨_, .list hget rfl⟩
          | cons m ms =>
              exact ⟨_, .members hget nofun rfl⟩

/-- An envelope makes of a list what the plain decoder does, but for the errors of elements and of
what cannot be a list. -/
theorem result_envelopeList_eq_iff (r : Decoded (List α)) :
    (o.envelopeList name typeName item).result = r ↔
      o.ListVerdict name typeName (fun v => (v.list name item).result) r :=
  eq_iff_of_total exists_listVerdict result_envelopeList_of_verdict

theorem result_envelopeJids_eq_iff (r : Decoded (List String)) :
    (o.envelopeJids name).result = r ↔ o.JidsVerdict name r :=
  result_envelopeList_eq_iff r

theorem require_asInt_eq_iff (r : Decoded Int) :
    (o.require name >>= fun v => v.asInt name) = r ↔ o.IntVerdict name r := by
  constructor
  · rintro rfl
    cases hget : o.get? name with
    | none =>
        rw [require_of_absent hget]
        exact .absent hget
    | some v =>
        rw [require_eq_ok_iff.mpr hget]
        cases v with
        | int i =>
            exact .integer hget
        | null | bool _ | float _ | str _ | arr _ | obj _ =>
            exact .notInteger hget nofun
  · intro h
    cases h with
    | absent hget =>
        rw [require_of_absent hget]
        rfl
    | @notInteger v hget hne =>
        rw [require_eq_ok_iff.mpr hget]
        cases v with
        | int i =>
            exact absurd rfl (hne i)
        | null | bool _ | float _ | str _ | arr _ | obj _ =>
            rfl
    | integer hget =>
        rw [require_eq_ok_iff.mpr hget]
        rfl

theorem exists_listVerdict_ok_iff :
    (∃ as, o.ListVerdict name typeName plain (.ok as)) ↔
      ∃ v as, o.get? name = some v ∧ plain v = .ok as := by
  constructor
  · rintro ⟨as, h⟩
    cases h with
    | list hget hplain =>
        exact ⟨_, as, hget, hplain⟩
  · rintro ⟨v, as, hget, hplain⟩
    exact ⟨as, .list hget hplain⟩

theorem exists_intVerdict_ok_iff :
    (∃ i, o.IntVerdict name (.ok i)) ↔ ∃ i, o.get? name = some (.int i) := by
  constructor
  · rintro ⟨i, h⟩
    cases h with
    | integer hget =>
        exact ⟨i, hget⟩
  · rintro ⟨i, hget⟩
    exact ⟨i, .integer hget⟩

/-- What is wrapped is the error of an element, which wraps no other. -/
theorem ListVerdict.kind_ne_nested {listName listType : String} {cause : DecodeError}
    (hitem : ∀ w, FailsWith DecodeError.Plain (item w).result)
    (h : o.ListVerdict name typeName (fun v => (v.list name item).result)
      (.error (.nestedElement listName listType cause))) : cause.kind ≠ .nested := by
  cases h with
  | element _ hplain =>
      exact (Json.failsWith_list hitem _ hplain).kind_ne_nested

end Settling

end Object

namespace EnvelopeKind

/-- What is made of an envelope.  The jobs come first, in whatever order the object has its
properties. -/
def Verdict : (k : EnvelopeKind) → Object → Decoded k.Model → Prop
  | jidsResult, o => InOrder (o.JidsVerdict "jobs") (o.IntVerdict "total") JidsResult.mk
  | trackedJobs, o =>
      InOrder (o.ListVerdict "jobs" "Job[]" fun v => (Job.listOfJson "jobs" v).result)
        (o.JidsVerdict "expired") TrackedJobs.mk
  | workerJobs, o => InOrder (o.JidsVerdict "jobs") (o.JidsVerdict "stalled") WorkerJobs.mk

/-- Each property of an envelope is one that a plain decoder accepts. -/
def Passes : EnvelopeKind → Object → Prop
  | jidsResult, o =>
      (∃ v jids, o.get? "jobs" = some v ∧
        (v.list "jobs" (Json.stringElement "jobs")).result = .ok jids) ∧
      ∃ i, o.get? "total" = some (.int i)
  | trackedJobs, o =>
      (∃ v jobs, o.get? "jobs" = some v ∧ (Job.listOfJson "jobs" v).result = .ok jobs) ∧
      ∃ v jids, o.get? "expired" = some v ∧
        (v.list "expired" (Json.stringElement "expired")).result = .ok jids
  | workerJobs, o =>
      (∃ v jids, o.get? "jobs" = some v ∧
        (v.list "jobs" (Json.stringElement "jobs")).result = .ok jids) ∧
      ∃ v jids, o.get? "stalled" = some v ∧
        (v.list "stalled" (Json.stringElement "stalled")).result = .ok jids

variable {k : EnvelopeKind} {o : Object}

theorem result_ofJson_obj_eq_iff (r : Decoded k.Model) :
    (k.ofJson (.obj o)).result = r ↔ k.Verdict o r := by
  cases k with
  | jidsResult =>
      have hrun : (JidsResult.ofJson (.obj o)).result = ((o.envelopeJids "jobs").result >>= fun jids =>
          (o.require "total" >>= fun v => v.asInt "total") >>= fun total =>
            pure (JidsResult.mk jids total)) := by
        simp only [JidsResult.ofJson, Json.lift_asObject_obj, pure_bind, Traced.result_bind,
          Traced.result_lift, bind_assoc]
        rfl
      change (JidsResult.ofJson (.obj o)).result = r ↔ _
      rw [hrun]
      exact inOrder_iff Object.result_envelopeJids_eq_iff Object.require_asInt_eq_iff
  | trackedJobs =>
      change (TrackedJobs.ofJson (.obj o)).result = r ↔ _
      simp only [TrackedJobs.ofJson, Json.lift_asObject_obj, pure_bind, Traced.result_bind]
      exact inOrder_iff Object.result_envelopeList_eq_iff Object.result_envelopeJids_eq_iff
  | workerJobs =>
      change (WorkerJobs.ofJson (.obj o)).result = r ↔ _
      simp only [WorkerJobs.ofJson, Json.lift_asObject_obj, pure_bind, Traced.result_bind]
      exact inOrder_iff Object.result_envelopeJids_eq_iff Object.result_envelopeJids_eq_iff

theorem exists_verdict_ok_iff : (∃ m, k.Verdict o (.ok m)) ↔ k.Passes o := by
  cases k with
  | jidsResult =>
      exact exists_inOrder_ok_iff.trans
        (and_congr Object.exists_listVerdict_ok_iff Object.exists_intVerdict_ok_iff)
  | trackedJobs | workerJobs =>
      exact exists_inOrder_ok_iff.trans
        (and_congr Object.exists_listVerdict_ok_iff Object.exists_listVerdict_ok_iff)

theorem Verdict.kind_ne_nested {name typeName : String} {cause : DecodeError}
    (h : k.Verdict o (.error (.nestedElement name typeName cause))) : cause.kind ≠ .nested := by
  have hjids : ∀ {list}, o.JidsVerdict list (.error (.nestedElement name typeName cause)) →
      cause.kind ≠ .nested :=
    Object.ListVerdict.kind_ne_nested fun _ => Json.failsWith_stringElement
  cases k with
  | jidsResult =>
      cases h with
      | first hjobs =>
          exact hjids hjobs
      | second _ htotal =>
          cases htotal
  | trackedJobs =>
      cases h with
      | first hjobs =>
          exact hjobs.kind_ne_nested fun _ => Job.failsWith_ofJson
      | second _ hexpired =>
          exact hjids hexpired
  | workerJobs =>
      cases h with
      | first hjobs =>
          exact hjids hjobs
      | second _ hstalled =>
          exact hjids hstalled

/-- The properties of an envelope are settled one after the other, each as the plain decoder would
but for the errors inside it, which are wrapped once.  So an envelope is decoded exactly if the
plain decoders accept its properties. -/
theorem settled_in_order (k : EnvelopeKind) (o : Object) :
    (∀ r, (k.ofJson (.obj o)).result = r ↔ k.Verdict o r) ∧
      (∀ name typeName cause,
        (k.ofJson (.obj o)).result = .error (.nestedElement name typeName cause) →
          cause.kind ≠ .nested) ∧
      ((∃ m, (k.ofJson (.obj o)).result = .ok m) ↔ k.Passes o) := by
  have hverdict : ∀ r, (k.ofJson (.obj o)).result = r ↔ k.Verdict o r :=
    result_ofJson_obj_eq_iff
  refine ⟨hverdict, ?_, ?_⟩
  · intro name typeName cause herror
    exact ((hverdict _).mp herror).kind_ne_nested
  · rw [← exists_verdict_ok_iff]
    exact exists_congr fun m => hverdict (.ok m)

/-- Tracked jobs with a fault in each list, of which the second is written first. -/
def faultyTwice : Object :=
  [("expired", .null), ("jobs", .arr [.obj []])]

theorem settled_in_order_faultyTwice :
    (TrackedJobs.ofJson (.obj faultyTwice)).result =
        .error (.nestedElement "jobs" "Job[]" (.missing "data" none)) ∧
      trackedJobs.Verdict faultyTwice
        (.error (.nestedElement "jobs" "Job[]" (.missing "data" none))) ∧
      (DecodeError.missing "data" none).kind ≠ .nested ∧ ¬ trackedJobs.Passes faultyTwice := by
  have herror : (TrackedJobs.ofJson (.obj faultyTwice)).result =
      .error (.nestedElement "jobs" "Job[]" (.missing "data" none)) := by decide
  obtain ⟨hverdict, hcause, hpasses⟩ := settled_in_order trackedJobs faultyTwice
  refine ⟨herror, (hverdict _).mp herror, hcause _ _ _ herror, fun h => ?_⟩
  obtain ⟨m, hm⟩ := hpasses.mpr h
  exact nomatch herror.symm.trans hm

end EnvelopeKind

end JobWire
