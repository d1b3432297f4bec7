import KeaGauge.Net.Cidr
import KeaGauge.Calendar.Instant
/-!
# Metrics

A metric is one count of a subnet's addresses at one instant: all of them,
those assigned to clients, or those that clients declined.
-/

namespace KeaGauge

/-- What is counted. -/
inductive MetricKey where
  | total
  | assigned
  | declined
deriving DecidableEq, Repr

namespace MetricKey

/-- The name of a key, which ends a metric's path. -/
def text : MetricKey → String
  | total => "total"
  | assigned => "assigned"
  | declined => "declined"

/-- The key of a name. -/
def ofText? (s : String) : Option MetricKey :=
  [total, assigned, declined].find? (·.text = s)

end MetricKey

/-- A count of a subnet's addresses at an instant. -/
structure Metric where
  instant : Calendar.Instant
  cidr : Net.Cidr
  key : MetricKey
  value : Int
deriving DecidableEq

end KeaGauge
