import JobWire.Bench.Options
import JobWire.Bench.Report

/-!
# The benchmark command

Measures how fast documents are decoded and encoded, and prints a line for each scenario and
operation.
-/

namespace JobWire
namespace Bench

/-- The latencies, in seconds, of a number of calls. -/
def timeCalls {α : Type} (calls : Int) (f : Unit → α) : IO (List Float) :=
  (List.range calls.toNat).mapM fun _ => do
    let start ← IO.monoNanosNow
    let _ ← IO.lazyPure f
    let stop ← IO.monoNanosNow
    return (stop - start).toFloat / 1000000000

/-- A line of the report. -/
def reportLine (m : Measurement Float) : String :=
  String.intercalate "  "
    [m.scenario.name, m.operation.name, toString m.payloadBytes,
      fixedText 0 (throughput m.latencies), microseconds (median m.latencies),
      microseconds (percentile99 m.latencies)]

/-- The measurements of a scenario. -/
def measure (o : Options) (s : Scenario) : IO (List (Measurement Float)) := do
  let payload := s.payload o.historyLength o.jobsPerList
  match (s.workload payload).result with
  | .error e => throw (IO.userError (e.message "not JSON"))
  | .ok w =>
    let decodes ← timeCalls o.operations w.decode
    let encodes ← timeCalls o.operations w.encode
    return s.measurements payload fun
      | .decode => decodes
      | .encode => encodes

/-- How the command is used. -/
def usage : String :=
  "usage: [--operations N] [--history N] [--scenarios NAME,NAME,...]"

/-- A run with the given command-line arguments; its value is the exit code. -/
def runCommand (arguments : List String) : IO UInt32 := do
  if arguments.contains "--help" then
    IO.println usage
    return 0
  match Options.ofArguments? {} arguments with
  | none =>
    IO.eprintln usage
    return 2
  | some o =>
    match o.plan with
    | .error name => IO.eprintln (Options.unknownScenario name)
    | .ok scenarios =>
      IO.println "scenario  operation  bytes  ops/sec  p50  p99"
      for s in scenarios do
        for m in ← measure o s do
          IO.println (reportLine m)
    return o.exitCode

end Bench
end JobWire

/-- Runs the benchmark. -/
def main (arguments : List String) : IO UInt32 :=
  JobWire.Bench.runCommand arguments
