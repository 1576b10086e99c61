import JobWire.Bench.Sample
import JobWire.Envelope

/-!
# Scenarios

A scenario decodes a payload and then repeats two operations on it: decoding it again, and encoding
what was decoded.  The scenario of events decodes its payload element by element, and repeats the
decoding on the texts that encoding gave.

What a call costs is left open: a measurement is a list of latencies, whatever they are counted in.
-/

namespace JobWire
namespace Bench

/-- The scenarios. -/
inductive Scenario where
  | job | jobs | events | tracked
deriving DecidableEq

namespace Scenario

/-- The name of a scenario. -/
def name : Scenario → String
  | job => "job"
  | jobs => "jobs"
  | events => "events"
  | tracked => "tracked"

/-- All scenarios. -/
def all : List Scenario := [job, jobs, events, tracked]

/-- The scenario with a given name. -/
def ofName? (s : String) : Option Scenario :=
  all.find? fun scenario => scenario.name == s

/-- The sample document of a scenario. -/
def document (historyLength jobsPerList : Int) : Scenario → Json
  | job => sampleJob (sampleJid 0) historyLength
  | jobs => .arr (sampleJobs historyLength jobsPerList)
  | events => .arr (sampleHistory historyLength)
  | tracked =>
    .obj
      [("jobs", .arr (sampleJobs historyLength jobsPerList)),
        ("expired", .arr [.str "gone-1", .str "gone-2"])]

/-- The sample payload of a scenario. -/
def payload (historyLength jobsPerList : Int) (s : Scenario) : String :=
  (s.document historyLength jobsPerList).render

end Scenario

/-- The operations that are measured. -/
inductive Operation where
  | decode | encode
deriving DecidableEq

/-- The name of an operation. -/
def Operation.name : Operation → String
  | decode => "decode"
  | encode => "encode"

/-- The latencies of one operation of a scenario. -/
structure Measurement (τ : Type) where
  scenario : Scenario
  operation : Operation
  payloadBytes : Nat
  latencies : List τ

/-- What a scenario repeats once its payload has been decoded. -/
structure Workload where
  decode : Unit → Decode Unit
  encode : Unit → List String

namespace Workload

/-- The workload of a payload that is one record. -/
def ofRecord (α : Type) [Wire α] (payload : String) : Decode Workload := do
  let a ← JobWire.decode α (.text payload)
  return {
    decode := fun _ => do let _ ← JobWire.decode α (.text payload)
    encode := fun _ => [JobWire.encode a] }

/-- The parts of a document, one after the other: the elements of an array, the names of an object,
the characters of a string. -/
def parts : Json → List Json
  | .arr items => items
  | .obj members => members.map fun m => .str m.1
  | .str s => s.toList.map fun c => .str (String.singleton c)
  | _ => []

/-- The events of a list of texts. -/
def decodeEvents (texts : List String) : Decode (List Event) :=
  Traced.each (fun text => JobWire.decode Event (.text text)) texts

/-- The workload of a payload that is a list of events. -/
def ofEvents (payload : String) : Decode Workload := do
  let events ← decodeEvents ((parts (← (Document.text payload).json)).map Json.render)
  let texts := events.map JobWire.encode
  return {
    decode := fun _ => do let _ ← decodeEvents texts
    encode := fun _ => events.map JobWire.encode }

end Workload

namespace Scenario

/-- The workload of a scenario on a payload. -/
def workload (s : Scenario) (payload : String) : Decode Workload :=
  match s with
  | job => Workload.ofRecord Job payload
  | jobs => Workload.ofRecord (List Job) payload
  | events => Workload.ofEvents payload
  | tracked => Workload.ofRecord TrackedJobs payload

/-- The measurements of a scenario, given the latencies of its operations. -/
def measurements {τ : Type} (s : Scenario) (payload : String) (latencies : Operation → List τ) :
    List (Measurement τ) :=
  [Operation.decode, Operation.encode].map fun operation =>
    { scenario := s, operation, payloadBytes := payload.utf8ByteSize,
      latencies := latencies operation }

/-- A run of a scenario in which every call of an operation takes the time that `elapsed` says.  A
negative number of calls is none. -/
def run {τ : Type} (elapsed : Operation → Nat → τ) (s : Scenario) (payload : String) (calls : Int) :
    Decode (List (Measurement τ)) := do
  let w ← s.workload payload
  let numbers := List.range calls.toNat
  let _ ← Traced.each (fun _ => w.decode ()) numbers
  return s.measurements payload fun operation => numbers.map (elapsed operation)

end Scenario

end Bench
end JobWire
