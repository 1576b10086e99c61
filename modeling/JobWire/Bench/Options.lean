import JobWire.Bench.Scenario
import JobWire.Text.Blank

/-!
# Options of the benchmark

The command line gives the number of calls, the length of the histories, and the scenarios as names
between commas.  Names are taken without the white space around them, and blank ones are dropped.
A name that no scenario bears ends the run with exit code 2.
-/

namespace JobWire
namespace Bench

/-- The options of a run. -/
structure Options where
  operations : Int := 1000
  history : Int := 10
  jobsPerList : Int := 25
  scenarios : String := "job,jobs,events,tracked"

namespace Options

/-- The names of the scenarios asked for. -/
def scenarioNames (o : Options) : List String :=
  ((o.scenarios.splitOn ",").filter fun s => !Text.isBlank s).map Text.trim

/-- The length of the sample histories, at least one. -/
def historyLength (o : Options) : Int :=
  max o.history 1

/-- The scenarios asked for, or the first name that no scenario bears. -/
def plan (o : Options) : Except String (List Scenario) :=
  o.scenarioNames.mapM fun name =>
    match Scenario.ofName? name with
    | some s => .ok s
    | none => .error name

/-- The sentence about a name that no scenario bears. -/
def unknownScenario (name : String) : String :=
  "Unknown scenario: " ++ name

/-- The exit code of a run. -/
def exitCode (o : Options) : UInt32 :=
  match o.plan with
  | .ok _ => 0
  | .error _ => 2

/-- The options that command-line arguments give, if they can be understood. -/
def ofArguments? (o : Options) : List String → Option Options
  | [] => some o
  | flag :: value :: rest =>
    if flag = "--operations" || flag = "-n" then
      value.toInt?.bind fun n => ofArguments? { o with operations := n } rest
    else if flag = "--history" then
      value.toInt?.bind fun n => ofArguments? { o with history := n } rest
    else if flag = "--scenarios" || flag = "-s" then
      ofArguments? { o with scenarios := value } rest
    else none
  | _ => none

end Options

end Bench
end JobWire
