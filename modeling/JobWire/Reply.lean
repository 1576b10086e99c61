import JobWire.Envelope
import JobWire.Job.Recurring
import JobWire.Queue.Counts
import JobWire.Queue.PriorityPattern
import JobWire.Queue.Stats
import JobWire.Throttle
import JobWire.Worker.Counts

/-!
# Replies of the server

A command is answered by text or bytes, which are a JSON document, by an integer, or by nothing.
Each reader below says what one family of commands means by its answer.  Only the readers of a
single job take nothing for an answer; everywhere else it is an error, and an integer always is.
The error names the integer, and is one of decoding only if the integer can be named.
-/

namespace JobWire

/-- What the server sends back for a command. -/
inductive Reply where
  | nothing
  | text (s : String)
  | bytes (b : ByteArray)
  | integer (i : Int)

/-- A run whose failure is a client's error. -/
abbrev Client (α : Type) := Traced ClientError α

instance : MonadLift (Traced DecodeError) (Traced ClientError) where
  monadLift x := x.mapError ClientError.decode

namespace Reply

/-- The reply, which must not be nothing. -/
def require : Reply → Client Reply
  | nothing => .fail (.noAnswer none)
  | reply => .ok reply

/-- The error of an integer where a document is expected. -/
def integerError (i : Int) : ClientError :=
  match Text.integer i with
  | .ok digits =>
    .decode
      (.other ("Expected a JSON document from the server, got integer " ++ digits ++ ".") none)
  | .error sentence => .foreign sentence

/-- The JSON value of the document that a reply is. -/
def json : Reply → Client Json
  | nothing => .fail (.noAnswer none)
  | text s => (Document.text s).json
  | bytes b => (Document.bytes b).json
  | integer i => .fail (integerError i)

/-- A reply that is a record. -/
def record {α : Type} (ofJson : Json → Decode α) (r : Reply) : Client α := do
  ofJson (← r.json)

/-- A reply that is a record, or nothing. -/
def record? {α : Type} (ofJson : Json → Decode α) : Reply → Client (Option α)
  | nothing => return none
  | r => some <$> r.record ofJson

/-- A job, if there is one. -/
def job? : Reply → Client (Option Job) := record? Job.ofJson

/-- A recurring job, if there is one. -/
def recurringJob? : Reply → Client (Option RecurringJob) := record? RecurringJob.ofJson

/-- A list of jobs. -/
def jobs : Reply → Client (List Job) := record (Job.listOfJson "jobs")

/-- The error of a blank jid. -/
def blankJid : DecodeError :=
  .other
    ("Value cannot include empty string or strings composed entirely of whitespace."
      ++ " (Subject 'jids')")
    (some "jids")

/-- Jids of which none may be blank. -/
def jidsOfJson (v : Json) : Decode (List String) := do
  let jids ← v.list "jids" (Json.stringElement "jids")
  if jids.any Text.isBlank then Traced.fail blankJid else return jids

/-- A list of jids. -/
def jids : Reply → Client (List String) := record jidsOfJson

/-- A page of jids. -/
def jidsResult : Reply → Client JidsResult := record JidsResult.ofJson

/-- The tracked jobs. -/
def trackedJobs : Reply → Client TrackedJobs := record TrackedJobs.ofJson

/-- The jobs of a worker. -/
def workerJobs : Reply → Client WorkerJobs := record WorkerJobs.ofJson

/-- The counts of a queue. -/
def queueCounts : Reply → Client QueueCounts := record QueueCounts.ofJson

/-- The counts of every queue. -/
def queueCountsList : Reply → Client (List QueueCounts) := record QueueCounts.listOfJson

/-- The counts of every worker. -/
def workerCountsList : Reply → Client (List WorkerCounts) := record WorkerCounts.listOfJson

/-- The statistics of a queue. -/
def queueStats : Reply → Client QueueStats := record QueueStats.ofJson

/-- A throttle. -/
def throttle : Reply → Client Throttle := record Throttle.ofJson

/-- Priority patterns, each of which is JSON text within the document. -/
def patternsOfJson (v : Json) : Decode (List PriorityPattern) := do
  let texts ← v.list "patterns" (Json.stringElement "patterns")
  Traced.each (fun text => decode PriorityPattern (.text text)) texts

/-- The stored priority patterns. -/
def priorityPatterns : Reply → Client (List PriorityPattern) := record patternsOfJson

end Reply
end JobWire
