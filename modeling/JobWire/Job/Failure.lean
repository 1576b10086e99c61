import JobWire.Property.Elements
import JobWire.Wire

/-!
# Failures of a job

A failure says into which group a job failed, with what message, when, and in which worker.  On the
wire a job that has not failed carries `{}` or null in its place, so what is decoded is a failure
or nothing.
-/

namespace JobWire

/-- The most recent failure of a job. -/
structure Failure where
  group : String
  message : String
  time : Int
  worker : String
deriving DecidableEq

/-- The fields given for a failure. -/
structure FailureDraft where
  group : Option String := none
  message : Option String := none
  time : Option Int := none
  worker : Option String := none

/-- The failure with the given fields. -/
def FailureDraft.build (d : FailureDraft) : Built Failure := do
  let slot := Slot.mk "JobFailure"
  return {
    group := ← (slot "group").text d.group
    message := ← (slot "message").text d.message
    time := ← (slot "when").positive d.time
    worker := ← (slot "worker_name").text d.worker }

namespace Failure

/-- The values that a failure accepts. -/
def Valid (f : Failure) : Prop :=
  NotBlank f.group ∧ NotBlank f.message ∧ 0 < f.time ∧ NotBlank f.worker

instance (f : Failure) : Decidable f.Valid :=
  inferInstanceAs (Decidable (_ ∧ _ ∧ _ ∧ _))

/-- The declared properties of a failure. -/
def shape : Shape := ⟨"failure", ["group", "message", "when", "worker"], []⟩

/-- The fields of a failure, read from its properties. -/
def draft (o : Object) : Decoded FailureDraft := do
  return {
    group := ← o.string "group"
    message := ← o.string "message"
    time := ← o.int "when"
    worker := ← o.string "worker" }

/-- The failure that a value is, if it is one. -/
def ofJson : Json → Decode (Option Failure)
  | .null | .obj [] => return none
  | .obj members => do
    let o ← shape.read (.obj members)
    let d ← draft o
    let f ← d.build
    return some f
  | v => Traced.fail (v.wrongShape "failure" "object")

/-- The value of a failure or of its absence. -/
def toJson : Option Failure → Json
  | none => .obj []
  | some f =>
    .obj [("group", .str f.group), ("message", .str f.message), ("when", .int f.time),
      ("worker", .str f.worker)]

instance : Wire (Option Failure) := ⟨ofJson, toJson⟩

end Failure
end JobWire
