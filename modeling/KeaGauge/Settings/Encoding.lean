import KeaGauge.Settings.Basic
import KeaGauge.Json.Value
/-!
# Settings as JSON

Every field is written, those too that are as settings leave them; only the
name of a target that has none is left out.
-/

namespace KeaGauge.Settings

open Json (Value)

/-- How passes are made. -/
def Polling.toJson (s : Polling) : Value :=
  .ofMembers [("interval_secs", .ofNat s.interval.toNat),
    ("max_parallel_targets", .ofNat s.parallel.toNat)]

/-- How a cycle is run. -/
def Collecting.toJson (s : Collecting) : Value :=
  .ofMembers [("discard_policy", .string s.policy.text),
    ("statistic_concurrency", .ofNat s.concurrency.toNat)]

/-- Where metrics are written to. -/
def Carbon.toJson (s : Carbon) : Value :=
  .ofMembers [("host", .string s.host), ("port", .ofNat s.port.toNat),
    ("root", .string s.root), ("per_server_paths", .bool s.perServerPaths),
    ("timeout_secs", .ofNat s.timeout.toNat)]

/-- A Control Agent to collect from. -/
def Target.toJson (t : Target) : Value :=
  .ofMembers ((t.name.map fun name => ("name", Value.string name)).toList
    ++ [("address", .string t.address), ("port", .ofNat t.port.toNat),
      ("https", .bool t.https), ("timeout_secs", .ofNat t.timeout.toNat),
      ("dhcp_version", .ofNat t.family.number)])

/-- All settings. -/
def toJson (s : Settings) : Value :=
  .ofMembers [("poller", s.polling.toJson), ("collector", s.collecting.toJson),
    ("carbon", s.carbon.toJson), ("targets", .list (s.targets.map Target.toJson))]

end KeaGauge.Settings
