import JobWire.Bench.Statistics
import JobWire.Number.Layout

/-!
# Reports of latencies

How the statistics of a measurement are written: exact texts of the numbers in seconds, and
latencies in microseconds with one decimal, or two below ten.
-/

namespace JobWire
namespace Bench

/-- A count as a machine number. -/
instance natCastFloat : NatCast Float := ⟨Float.ofNat⟩

/-- Numbers are positional from `10 ^ -4` to below `10 ^ 16`, and exponents have two digits. -/
def reportLayout : Layout where
  lowest := -4
  highest := 15
  exponentWidth := 2
  nan := "nan"
  infinity := "inf"

/-- The shortest text of a number. -/
def numberText (x : Float) : String :=
  String.ofList (reportLayout.chars (.ofFloat x))

/-- A number with a given number of decimals. -/
def fixedText (places : Nat) (x : Float) : String :=
  String.ofList (reportLayout.fixed places (.ofFloat x))

/-- A latency in microseconds. -/
def microseconds (seconds : Float) : String :=
  let us := seconds * 1000000
  fixedText (if us < 10 then 2 else 1) us ++ "µs"

/-- The text of the total; without latencies it is the integer zero. -/
def totalText (latencies : List Float) : String :=
  if latencies.isEmpty then "0" else numberText (total latencies)

end Bench
end JobWire
