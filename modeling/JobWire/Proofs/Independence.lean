import JobWire.Envelope
import JobWire.Proofs.Ignored

/-!
# Decoding is independent of order and of other properties

A record is decoded from the properties that its decoder looks up, and so is an envelope.  In which
order an object has them, and what else it has, changes neither the value that is decoded nor the
error that is reported.

Two records are not decoded from every object.  An object is an event of a kind only if it says so,
and a failure only if it is not empty.

**Results.**
* `Object.get?_perm`: properties of different names may change places.
* `EnvelopeKind.result_ofJson_congr`: decoding an envelope depends on its two properties.
* `RootKind.result_ofJson_of_agreeOn`: objects that agree in the properties that are looked up, and
  objects that differ in the order of their properties, are decoded to the same result.
-/

namespace JobWire

namespace Object

variable {o p : Object} {name : String} {names : List String}

theorem get?_eq_some_iff {v : Json} (hnodup : o.names.Nodup) :
    o.get? name = some v ↔ (name, v) ∈ o :=
  ⟨mem_of_get?, get?_of_mem hnodup⟩

theorem get?_perm (hnodup : o.names.Nodup) (h : p.Perm o) : p.get? name = o.get? name := by
  have hp : p.names.Nodup := (h.map Prod.fst).nodup_iff.mpr hnodup
  refine Option.ext fun v => ?_
  rw [get?_eq_some_iff hp, get?_eq_some_iff hnodup, h.mem_iff]

theorem agreeOn_of_perm (hnodup : o.names.Nodup) (h : p.Perm o) : AgreeOn names o p :=
  fun _ _ => (get?_perm hnodup h).symm

theorem AgreeOn.require (h : AgreeOn names o p) :
    ∀ name ∈ names, o.require name = p.require name := by
  intro name hname
  unfold Object.require
  rw [h name hname]

end Object

/-- The answers that bundle a list with something else. -/
inductive EnvelopeKind where
  | jidsResult | trackedJobs | workerJobs
deriving DecidableEq

namespace EnvelopeKind

/-- What an envelope of a kind is decoded into. -/
def Model : EnvelopeKind → Type
  | jidsResult => JidsResult
  | trackedJobs => TrackedJobs
  | workerJobs => WorkerJobs

/-- The properties of an envelope, in the order in which they are settled. -/
def names : EnvelopeKind → List String
  | jidsResult => ["jobs", "total"]
  | trackedJobs => ["jobs", "expired"]
  | workerJobs => ["jobs", "stalled"]

/-- The decoder of an envelope. -/
def ofJson : (k : EnvelopeKind) → Json → Decode k.Model
  | jidsResult => JidsResult.ofJson
  | trackedJobs => TrackedJobs.ofJson
  | workerJobs => WorkerJobs.ofJson

/-- An envelope is decoded from its two properties. -/
theorem result_ofJson_congr {k : EnvelopeKind} {o p : Object} (h : Object.AgreeOn k.names o p) :
    (k.ofJson (.obj o)).result = (k.ofJson (.obj p)).result := by
  have hrequire := h.require
  cases k with
  | jidsResult | trackedJobs | workerJobs =>
      simp only [names, List.forall_mem_cons] at hrequire
      simp only [ofJson, JidsResult.ofJson, TrackedJobs.ofJson, WorkerJobs.ofJson,
        Json.lift_asObject_obj, pure_bind, Object.envelopeJids, Object.envelopeList, hrequire]

end EnvelopeKind

/-- What is decoded from a whole object. -/
inductive RootKind where
  | record (r : RecordKind)
  | envelope (k : EnvelopeKind)
deriving DecidableEq

namespace RootKind

/-- What an object is decoded into. -/
def Model : RootKind → Type
  | record r => r.Model
  | envelope k => k.Model

/-- The properties that are looked up.  Besides those that a record declares it is only `fairly`,
which a priority pattern need not have. -/
def names : RootKind → List String
  | record .priorityPattern => PriorityPattern.shape.names ++ ["fairly"]
  | record r => r.shape.names
  | envelope k => k.names

/-- The decoder of an object. -/
def ofJson : (k : RootKind) → Json → Decode k.Model
  | record r => r.ofJson
  | envelope k => k.ofJson

/-- The decoder takes the object for a record of its kind, and any object for an envelope. -/
def Takes : RootKind → Object → Prop
  | record r, o => r.Takes o
  | envelope _, _ => True

variable {k : RootKind} {o p : Object}

theorem Takes.of_perm (ho : k.Takes o) (hnodup : o.names.Nodup) (h : p.Perm o) : k.Takes p := by
  cases k with
  | record r =>
      cases r with
      | failure =>
          rintro rfl
          exact ho h.symm.eq_nil
      | event kind =>
          exact (Object.get?_perm hnodup h).trans ho
      | job | recurringJob | queueCounts | phaseStats | queueStats | workerCounts | throttle
      | priorityPattern =>
          trivial
  | envelope _ =>
      trivial

theorem result_ofJson_congr (ho : k.Takes o) (hp : k.Takes p) (h : Object.AgreeOn k.names o p) :
    (k.ofJson (.obj o)).result = (k.ofJson (.obj p)).result := by
  cases k with
  | record r =>
      have hdeclared : Object.AgreeOn r.shape.names o p := by
        cases r with
        | priorityPattern =>
            exact fun name hname => h name (List.mem_append_left _ hname)
        | job | recurringJob | failure | event _ | queueCounts | phaseStats | queueStats
        | workerCounts | throttle =>
            exact h
      refine RecordKind.result_ofJson_congr ho hp hdeclared ?_
      rintro rfl
      exact h "fairly" (List.mem_append_right _ List.mem_cons_self)
  | envelope k =>
      exact EnvelopeKind.result_ofJson_congr h

/-- What is decoded from an object, or why it is refused, depends on the properties that are looked
up: not on any other property, and not on the order of the properties. -/
theorem result_ofJson_of_agreeOn (k : RootKind) (o p : Object) (ho : k.Takes o) :
    (k.Takes p → Object.AgreeOn k.names o p →
      (k.ofJson (.obj p)).result = (k.ofJson (.obj o)).result) ∧
    (o.names.Nodup → p.Perm o → (k.ofJson (.obj p)).result = (k.ofJson (.obj o)).result) := by
  constructor
  · intro hp hagree
    exact (result_ofJson_congr ho hp hagree).symm
  · intro hnodup hperm
    have hagree : Object.AgreeOn k.names o p := Object.agreeOn_of_perm hnodup hperm
    exact (result_ofJson_congr ho (ho.of_perm hnodup hperm) hagree).symm

/-- An event that says when it failed in the wrong way. -/
def failedLate : Object :=
  [("what", .str "failed"), ("when", .str "late"), ("group", .str "g"), ("worker", .str "w")]

/-- The same event in another order, and with properties that look like those of other events. -/
def failedLateElsewhere : Object :=
  [("worker", .str "w"), ("queue", .null), ("group", .str "g"),
    ("data", .obj [("what", .str "put"), ("when", .int 0)]), ("when", .str "late"),
    ("what", .str "failed")]

theorem failedLate_refused_elsewhere :
    (record (.event .failed)).Takes failedLate ∧
      (record (.event .failed)).Takes failedLateElsewhere ∧
      Object.AgreeOn (record (.event .failed)).names failedLate failedLateElsewhere ∧
      failedLate.names.Nodup ∧ failedLate.reverse.Perm failedLate ∧
      (Event.ofJson (.obj failedLate)).result =
        .error (.unexpectedShape "when" "integer" "string") ∧
      (Event.ofJson (.obj failedLateElsewhere)).result =
        .error (.unexpectedShape "when" "integer" "string") ∧
      (Event.ofJson (.obj failedLate.reverse)).result =
        .error (.unexpectedShape "when" "integer" "string") := by
  have hagree : Object.AgreeOn (record (.event .failed)).names failedLate failedLateElsewhere := by
    unfold Object.AgreeOn
    decide
  have hnodup : failedLate.names.Nodup := by decide
  have hperm : failedLate.reverse.Perm failedLate := List.reverse_perm failedLate
  have herror : (Event.ofJson (.obj failedLate)).result =
      .error (.unexpectedShape "when" "integer" "string") := by decide
  have hsame := (result_ofJson_of_agreeOn (record (.event .failed)) failedLate failedLateElsewhere
    rfl).1 rfl hagree
  have hreverse := (result_ofJson_of_agreeOn (record (.event .failed)) failedLate
    failedLate.reverse rfl).2 hnodup hperm
  exact ⟨rfl, rfl, hagree, hnodup, hperm, herror, hsame.trans herror, hreverse.trans herror⟩

end RootKind

end JobWire
