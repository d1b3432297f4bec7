import KeaGauge.Calendar.Timestamp
import KeaGauge.Json.Value
import KeaGauge.Kea.Service
/-!
# Documents to answer with

What a Control Agent answers, built from what it is about.
-/

namespace KeaGauge.Scripted.Fixture

open Json (Value)
open Net (Family)

/-- A subnet entry. -/
def subnet (id : Nat) (written : String) : Value :=
  .ofMembers [("id", .ofNat id), ("subnet", .string written)]

/-- How a shared network is named, by its place. -/
def networkName (i : Nat) : String := s!"shared-{i}"

/-- A shared network of subnet entries. -/
def network (family : Family) (i : Nat) (subnets : List Value) : Value :=
  .ofMembers [("name", .string (networkName i)), (Kea.subnetsName family, .list subnets)]

/-- **A configuration** of subnet entries and of shared networks. -/
def config (family : Family) (subnets : List Value) (shared : List (List Value)) : Value :=
  .ofMembers [(Kea.sectionName family,
    .ofMembers [(Kea.subnetsName family, .list subnets),
      ("shared-networks", .list (shared.mapIdx (network family)))])]

/-- The answer of one service. -/
def answer (members : List (String × Value)) : Value := .list [.ofMembers members]

/-- The answer that hands out a configuration. -/
def configAnswer (config : Value) : Value :=
  answer [("result", .int 0), ("arguments", config)]

/-- A sample of a statistic. -/
def sample (value : Int) (timestamp : String) : Value := .list [.int value, .string timestamp]

/-- The answer that hands out the samples of a statistic. -/
def statisticAnswer (statistic : String) (samples : List (Int × String)) : Value :=
  answer [("result", .int 0),
    ("arguments", .ofMembers [(statistic, .list (samples.map fun (v, t) => sample v t))])]

/-- The answer of a command that was not carried out. -/
def refusal (result : Int) (text : String) : Value :=
  answer [("result", .int result), ("text", .string text)]

end KeaGauge.Scripted.Fixture
