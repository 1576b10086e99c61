/-!
# Statistics of latencies

The total, the throughput and two percentiles of a list of latencies.  The definitions ask only for
the arithmetic that they use, so they serve the floating-point numbers of a measurement and exact
numbers alike.  The empty list has zero for all of them.

**Results.**
* `rank99_lt`: the position of the 99th percentile lies within the list.
-/

namespace JobWire
namespace Bench

variable {α : Type} [Add α] [Div α] [LE α] [DecidableLE α] [LT α] [DecidableLT α] [NatCast α]
  [OfNat α 0] [OfNat α 2]

/-- The sum, from left to right. -/
def total (latencies : List α) : α :=
  latencies.foldl (· + ·) 0

/-- Calls in a unit of time. -/
def throughput (latencies : List α) : α :=
  if 0 < total latencies then (latencies.length : α) / total latencies else 0

/-- The latencies in ascending order. -/
def ascending (latencies : List α) : List α :=
  latencies.mergeSort fun a b => decide (a ≤ b)

/-- The middle latency, or the mean of the two middle ones. -/
def median (latencies : List α) : α :=
  let sorted := ascending latencies
  let middle := sorted.length / 2
  if sorted.length % 2 = 1 then sorted.getD middle 0
  else if sorted.length = 0 then 0
  else (sorted.getD (middle - 1) 0 + sorted.getD middle 0) / 2

/-- The position of the 99th percentile among `n` latencies in ascending order. -/
def rank99 (n : Nat) : Nat :=
  min (99 * n / 100) (n - 1)

/-- The 99th percentile. -/
def percentile99 (latencies : List α) : α :=
  (ascending latencies).getD (rank99 latencies.length) 0

theorem rank99_lt {n : Nat} (h : 0 < n) : rank99 n < n := by
  unfold rank99
  omega

end Bench
end JobWire
