import KeaGauge.Metric
import KeaGauge.Json.Value
import KeaGauge.Calendar.Timestamp
/-!
# Statistics

Kea keeps statistics under names such as `subnet[7].assigned-addresses` and
hands each out as a list of samples, pairs of a value and a timestamp.
-/

namespace KeaGauge.Kea

open Json (Value Object)

/-- The statistics of a subnet that are collected, and what each counts. -/
def tracked : List (String × MetricKey) :=
  [("total-addresses", .total), ("assigned-addresses", .assigned),
    ("declined-addresses", .declined)]

/-- The name of a statistic of the subnet of an id. -/
def statisticName (id : Nat) (statistic : String) : String :=
  "subnet[" ++ Nat.repr id ++ "]." ++ statistic

/-- A value at an instant. -/
structure Point where
  instant : Calendar.Instant
  value : Int
deriving DecidableEq

namespace Point

/-- The point that a sample holds: a list of exactly an integer and a
timestamp. -/
def ofSample? (v : Value) : Option Point :=
  match v with
  | .list [value, timestamp] => do
    let value ← value.int64?
    let instant ← Calendar.Timestamp.ofText? (← timestamp.text?)
    return ⟨instant, value⟩
  | _ => none

end Point

/-- The samples of a statistic in the arguments of an answer; none when they
are absent or not a list. -/
def samplesAt (arguments : Object) (statistic : String) : List Value :=
  ((arguments.get? statistic).bind Value.items?).getD []

/-- The points of a statistic, without those of malformed samples. -/
def pointsAt (arguments : Object) (statistic : String) : List Point :=
  (samplesAt arguments statistic).filterMap Point.ofSample?

/-- The malformed samples of a statistic. -/
def malformedAt (arguments : Object) (statistic : String) : List Value :=
  (samplesAt arguments statistic).filter fun v => (Point.ofSample? v).isNone

end KeaGauge.Kea
