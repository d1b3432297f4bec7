import KeaGauge.Json.Printer
import KeaGauge.Kea.Drift
import KeaGauge.Kea.Service
import KeaGauge.Metric
/-!
# Notices

What the collection from one agent has to report besides its outcome, by
cause. `Notice.level` says how serious a notice is and `Notice.message` what
it says.
-/

namespace KeaGauge

open Json (Value)
open Net (Family Cidr)

/-- How serious a notice is. -/
inductive Level where
  | info
  | warn
  | error
deriving DecidableEq, Repr

/-- The name of a level. -/
def Level.name : Level → String
  | .info => "INFO"
  | .warn => "WARN"
  | .error => "ERROR"

/-- Something to report about one agent. -/
inductive Notice where
  /-- A subnet entry lacks its id or its prefix. -/
  | incompleteSubnet (entry : Value)
  /-- The id of a subnet entry is no integer of 32 bits. -/
  | invalidId (id : Value)
  /-- The prefix of a subnet entry cannot be read. -/
  | invalidPrefix (id : Nat) (written : Value)
  /-- The prefix of a subnet entry is of the other family. -/
  | foreignPrefix (id : Nat) (cidr : Cidr) (family : Family)
  | unparsablePool (pool : Value) (id : Nat)
  | malformedSample (sample : Value) (statistic : String)
  /-- The agent answered a command with another result than success. -/
  | unfulfilled (url command : String) (result : Int) (text : String)
  /-- A successful answer held no point of the statistic. -/
  | emptyStatistic (key : MetricKey) (cidr : Cidr) (url statistic : String)
  | emitted (count : Nat) (url : String)
  /-- The second reading of the configuration was refused. -/
  | unverified (url : String) (result : Int) (text : String) (count : Nat)
  | drifted (url : String) (drift : Kea.Drift)
  | discarded (count total : Nat) (url : String)

namespace Notice

/-- How serious the notice is. -/
def level : Notice → Level
  | emitted _ _ => .info
  | unverified _ _ _ _ | drifted _ _ => .error
  | _ => .warn

/-- What the notice says. -/
def message : Notice → String
  | incompleteSubnet entry =>
    "id or prefix missing from a subnet's configuration: " ++ entry.text
  | invalidId id => "Ignoring subnet with invalid id " ++ id.text
  | invalidPrefix id written =>
    s!"Ignoring subnet {id} with invalid prefix " ++ written.text
  | foreignPrefix id cidr family =>
    s!"Ignoring subnet {id} (" ++ cidr.text ++ ") in a " ++ Kea.protocolName family
      ++ " configuration"
  | unparsablePool pool id => "Ignoring unparsable pool " ++ pool.text ++ s!" of subnet {id}"
  | malformedSample sample statistic =>
    "Ignoring malformed sample " ++ sample.text ++ " of statistic '" ++ statistic ++ "'"
  | unfulfilled url command result text =>
    "Kea at " ++ url ++ " did not fulfil '" ++ command ++ s!"' (result {result}): " ++ text
  | emptyStatistic key cidr url statistic =>
    "Could not fetch metric '" ++ key.text ++ "' for subnet " ++ cidr.text ++ " from " ++ url
      ++ ": '" ++ statistic ++ "' is empty"
  | emitted count url => s!"Emitted {count} metrics from " ++ url
  | unverified url result text count =>
    "Could not re-read the configuration of " ++ url
      ++ s!" after fetching metrics (result {result}: " ++ text
      ++ s!"); discarding {count} metrics"
  | drifted url drift =>
    "Subnet configuration of " ++ url ++ " was modified during metric fetching ("
      ++ drift.text ++ "), metrics may be associated with the wrong subnet"
  | discarded count total url => s!"Discarded {count} of {total} metrics from " ++ url

end Notice

end KeaGauge
