import JobWire.Json.Printer

/-!
# Sample documents

The documents that the benchmark decodes and encodes: a job with a mixed history, a list of such
jobs, the events of a history, and an envelope of tracked jobs.  The length of the history and the
number of jobs are free, and a length below one means one event.
-/

namespace JobWire
namespace Bench

/-- The time of the first event of a sample history. -/
def startTime : Int := 1700000000000

/-- An object with a kind, a time, and one more property. -/
def sampleEntry (what : String) (offset : Int) (name value : String) : Json :=
  .obj [("what", .str what), ("when", .int (startTime + offset)), (name, .str value)]

/-- The event at a position of a sample history: a put, then throttled, noted and popped in turn. -/
def sampleEvent (i : Nat) : Json :=
  if i = 0 then sampleEntry "put" i "queue" "emails"
  else if i % 3 = 0 then sampleEntry "popped" i "worker" "w-1"
  else if i % 3 = 1 then sampleEntry "throttled" i "queue" "emails"
  else sampleEntry "note" i "text" ("step " ++ toString i)

/-- A sample history. -/
def sampleHistory (length : Int) : List Json :=
  (List.range (max length 1).toNat).map sampleEvent

/-- A sample job, written as the server writes it. -/
def sampleJob (jid : String) (historyLength : Int) : Json :=
  .obj
    [("dependencies", .obj []),
      ("dependents", .arr []),
      ("expires", .int 1700000060000),
      ("failure", .obj []),
      ("history", .arr (sampleHistory historyLength)),
      ("data", .str "\x7b\"to\": \"user@example.com\"\x7d"),
      ("jid", .str jid),
      ("klass", .str "SendEmail"),
      ("priority", .int 0),
      ("queue", .str "emails"),
      ("remaining", .int 5),
      ("retries", .int 5),
      ("spawned_from_jid", .bool false),
      ("state", .str "running"),
      ("tags", .arr [.str "urgent"]),
      ("throttles", .arr [.str "ql:q:emails"]),
      ("tracked", .bool false),
      ("worker", .str "w-1")]

/-- The jid of a sample job. -/
def sampleJid (i : Nat) : String :=
  "jid-" ++ toString i

/-- A list of sample jobs. -/
def sampleJobs (historyLength count : Int) : List Json :=
  (List.range count.toNat).map fun i => sampleJob (sampleJid i) historyLength

end Bench
end JobWire
