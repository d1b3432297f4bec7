import KeaGauge.Settings.Basic
import KeaGauge.Text.Blank
/-!
# Violations

Settings are usable when no number in them is zero that must not be and every
target has an address. `Settings.violation?` finds the first rule that is
violated, in the order of the settings and, within a target, in the order of
address, port and timeout.
-/

namespace KeaGauge.Settings

/-- A rule that settings violate. -/
inductive Violation where
  | noInterval
  | noParallelism
  | noConcurrency
  /-- The receiver's port or timeout is zero. -/
  | noCarbon
  | noAddress
  | noPort (label : String)
  | noTimeout (label : String)
deriving DecidableEq, Repr

/-- What is said of a violation. -/
def Violation.message : Violation → String
  | noInterval => "poller.interval_secs must be at least 1"
  | noParallelism => "poller.max_parallel_targets must be at least 1"
  | noConcurrency => "collector.statistic_concurrency must be at least 1"
  | noCarbon => "carbon port and timeout must be non-zero"
  | noAddress => "target with empty address"
  | noPort label => "target " ++ label ++ " has port 0"
  | noTimeout label => "target " ++ label ++ " has a zero timeout"

/-- The first rule that a target violates. -/
def Target.violation? (t : Target) : Option Violation :=
  if (Text.trim t.address.toList).isEmpty then some .noAddress
  else if t.port = 0 then some (.noPort t.label)
  else if t.timeout = 0 then some (.noTimeout t.label)
  else none

/-- **The first rule that settings violate.** -/
def violation? (s : Settings) : Option Violation :=
  if s.polling.interval = 0 then some .noInterval
  else if s.polling.parallel = 0 then some .noParallelism
  else if s.collecting.concurrency = 0 then some .noConcurrency
  else if s.carbon.port = 0 ∨ s.carbon.timeout = 0 then some .noCarbon
  else s.targets.findSome? Target.violation?

end KeaGauge.Settings
