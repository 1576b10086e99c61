import JobWire.Constraint
import JobWire.Json.Parser
import JobWire.Json.Printer

/-!
# Events of a job's history

An entry of a history says what happened and when.  Seven kinds of event are known, and each has
fields of its own.  Any other event is kept as a *log event*: its further properties are stored as
pairs of a name and JSON text, so that they can be written back unchanged.

An event is built from fields that may or may not have been given.  The kind comes first, then the
time, then the fields of its own.

**Results.**
* `EventKind.ofName?_name`: a known kind is found by its name.
* `EventKind.ofName?_eq_none_iff`: a name is unknown when no kind bears it.
-/

namespace JobWire

/-- The known kinds of event. -/
inductive EventKind where
  | put | popped | done | failed | failedRetries | throttled | timedOut
deriving DecidableEq

namespace EventKind

/-- The name of a kind on the wire. -/
def name : EventKind → String
  | put => "put"
  | popped => "popped"
  | done => "done"
  | failed => "failed"
  | failedRetries => "failed-retries"
  | throttled => "throttled"
  | timedOut => "timed-out"

/-- The record of a kind, as messages call it. -/
def record : EventKind → String
  | put => "PutEvent"
  | popped => "PoppedEvent"
  | done => "DoneEvent"
  | failed => "FailedEvent"
  | failedRetries => "FailedRetriesEvent"
  | throttled => "ThrottledEvent"
  | timedOut => "TimedOutEvent"

/-- All known kinds. -/
def all : List EventKind :=
  [put, popped, done, failed, failedRetries, throttled, timedOut]

/-- The kind with a given name. -/
def ofName? (s : String) : Option EventKind :=
  all.find? fun k => k.name == s

theorem mem_all (k : EventKind) : k ∈ all := by
  cases k <;> decide

theorem ofName?_name (k : EventKind) : ofName? k.name = some k := by
  cases k <;> decide

theorem ofName?_eq_none_iff {s : String} : ofName? s = none ↔ ∀ k : EventKind, k.name ≠ s := by
  simp [ofName?, mem_all]

end EventKind

/-- One entry of a history. -/
inductive Event where
  | put (time : Int) (queue : String)
  | popped (time : Int) (worker : String)
  | done (time : Int)
  | failed (time : Int) (group worker : String)
  | failedRetries (time : Int) (group : String)
  | throttled (time : Int) (queue : String)
  | timedOut (time : Int)
  /-- An event of no known kind, with its further properties as names and JSON texts. -/
  | log (what : String) (time : Int) (extras : List (String × String))
deriving DecidableEq

/-- What an event of any kind has. -/
structure EventHeader where
  what : String
  time : Int
deriving DecidableEq

namespace Event

/-- The known kind of an event. -/
def kind? : Event → Option EventKind
  | put _ _ => some .put
  | popped _ _ => some .popped
  | done _ => some .done
  | failed _ _ _ => some .failed
  | failedRetries _ _ => some .failedRetries
  | throttled _ _ => some .throttled
  | timedOut _ => some .timedOut
  | log _ _ _ => none

/-- What happened. -/
def what : Event → String
  | put _ _ => EventKind.put.name
  | popped _ _ => EventKind.popped.name
  | done _ => EventKind.done.name
  | failed _ _ _ => EventKind.failed.name
  | failedRetries _ _ => EventKind.failedRetries.name
  | throttled _ _ => EventKind.throttled.name
  | timedOut _ => EventKind.timedOut.name
  | log what _ _ => what

/-- When it happened. -/
def time : Event → Int
  | put time _ | popped time _ | done time | failed time _ _ | failedRetries time _
  | throttled time _ | timedOut time | log _ time _ => time

/-- What an event has in common with all others. -/
def header (e : Event) : EventHeader :=
  ⟨e.what, e.time⟩

/-- The names that the properties of a log event may not have. -/
def reservedNames : List String := ["what", "when"]

/-- The further properties of a log event, read back. -/
def extraMembers (extras : List (String × String)) : Object :=
  extras.filterMap fun e => (Json.parse e.2).map fun v => (e.1, v)

/-- The further properties of an event. -/
def data : Event → Object
  | log _ _ extras => extraMembers extras
  | _ => []

/-- The further properties of a log event have names of their own and are JSON texts. -/
def ValidExtras (extras : List (String × String)) : Prop :=
  (∀ n ∈ reservedNames, n ∉ extras.map Prod.fst) ∧ (extras.map Prod.fst).Nodup ∧
    ∀ e ∈ extras, (Json.parse e.2).isSome

instance (extras : List (String × String)) : Decidable (ValidExtras extras) :=
  inferInstanceAs (Decidable (_ ∧ _ ∧ _))

/-- The values that an event accepts. -/
def Valid : Event → Prop
  | log what time extras =>
    (NotBlank what ∧ EventKind.ofName? what = none) ∧ 0 ≤ time ∧ ValidExtras extras
  | e => 0 ≤ e.time

instance (e : Event) : Decidable e.Valid := by
  cases e <;> unfold Valid <;> infer_instance

end Event

/-- The fields given for an event of a known kind. -/
structure EventDraft where
  what : Option String := none
  time : Option Int := none
  queue : Option String := none
  worker : Option String := none
  group : Option String := none

/-- The event of a known kind with the given fields. -/
def EventDraft.build (kind : EventKind) (d : EventDraft) : Built Event := do
  let slot := Slot.mk kind.record
  let _ ← (slot "what").ensure (d.what.getD kind.name = kind.name) (.notFixed kind.name) ()
  let time ← (slot "when").nonNegative d.time
  match kind with
  | .put => return .put time (← (slot "queue_name").given d.queue)
  | .popped => return .popped time (← (slot "worker_name").given d.worker)
  | .done => return .done time
  | .failed =>
    return .failed time (← (slot "group").given d.group) (← (slot "worker_name").given d.worker)
  | .failedRetries => return .failedRetries time (← (slot "group").given d.group)
  | .throttled => return .throttled time (← (slot "queue_name").given d.queue)
  | .timedOut => return .timedOut time

/-- The fields given for a log event.  Its further properties are given as texts or as an object of
values, and the object takes precedence. -/
structure LogDraft where
  what : Option String := none
  time : Option Int := none
  extras : List (String × String) := []
  data : Option Json := none

namespace LogDraft

/-- The further properties, each value as JSON text. -/
def texts (members : Object) : List (String × String) :=
  members.map fun m => (m.1, m.2.render)

/-- The further properties that were given. -/
def givenExtras (d : LogDraft) : Built (List (String × String)) :=
  match d.data with
  | none => .ok d.extras
  | some (.obj members) => .ok (texts members)
  | some _ => (Slot.mk "LogEvent" "LogEvent").refuse .dataNotObject

/-- The kind of a log event: a text that is not blank and names no known kind. -/
def checkWhat (what : Option String) : Built String := do
  let slot := Slot.mk "LogEvent" "what"
  let what ← slot.text what
  slot.ensure (EventKind.ofName? what = none) (.knownEvent what) what

/-- The further properties: no reserved name, then no repeated name, then JSON texts. -/
def checkExtras (extras : List (String × String)) : Built (List (String × String)) := do
  let slot := Slot.mk "LogEvent" "extras"
  let names := extras.map Prod.fst
  let reserved := Event.reservedNames.filter names.contains
  let _ ← slot.ensure (reserved = []) (.reservedNames reserved) ()
  let _ ← slot.ensure names.Nodup .repeatedName ()
  slot.ensure (∀ e ∈ extras, (Json.parse e.2).isSome) .extraNotJson extras

/-- The log event with the given fields. -/
def build (d : LogDraft) : Built Event := do
  let extras ← d.givenExtras
  let what ← checkWhat d.what
  let time ← (Slot.mk "LogEvent" "when").nonNegative d.time
  return .log what time (← checkExtras extras)

end LogDraft

/-- The header with the given fields. -/
def EventHeader.build (what : Option String) (time : Option Int) : Built EventHeader := do
  let slot := Slot.mk "JobEvent"
  return ⟨← (slot "what").given what, ← (slot "when").nonNegative time⟩

end JobWire
