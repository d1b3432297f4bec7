import KeaGauge.Cycle.Policy
import KeaGauge.Net.Url
/-!
# Settings

What is collected from where, how, and where it is written to. Numbers are
words of the width that their meaning has: 16 bits for a TCP port, 64 bits
for seconds and counts.
-/

namespace KeaGauge

open Net (Family)

namespace Settings

/-- How passes are made: every so many seconds, over so many targets at
once. -/
structure Polling where
  interval : UInt64
  parallel : UInt64
deriving DecidableEq, Repr

/-- How a cycle is run: what a drift discards, and how many statistics are
asked for at once. -/
structure Collecting where
  policy : DiscardPolicy
  concurrency : UInt64
deriving DecidableEq, Repr

/-- Where metrics are written to, and under which paths. -/
structure Carbon where
  host : String
  port : UInt16
  root : String
  perServerPaths : Bool
  timeout : UInt64
deriving DecidableEq, Repr

/-- A Control Agent to collect from. -/
structure Target where
  name : Option String
  address : String
  port : UInt16
  https : Bool
  timeout : UInt64
  family : Family
deriving DecidableEq, Repr

/-- A pass every five minutes, over eight targets at once. -/
def Polling.standard : Polling := ⟨300, 8⟩

/-- A drift discards the whole cycle; statistics are asked for one by one. -/
def Collecting.standard : Collecting := ⟨.wholeCycle, 1⟩

/-- A receiver on this machine. -/
def Carbon.standard : Carbon := ⟨"127.0.0.1", 2003, "nav", false, 5⟩

namespace Target

/-- The target at an address and a port, else as settings leave it. -/
def ofEndpoint (address : String) (port : UInt16) : Target :=
  ⟨none, address, port, true, 10, .v4⟩

/-- The address as it stands in a URL: one of IPv6 in brackets. -/
def host (t : Target) : String :=
  if (Net.Address.ofText? t.address).map (·.family) = some Family.v6 then
    "[" ++ t.address ++ "]"
  else t.address

/-- The URL of the Control Agent. -/
def url (t : Target) : String :=
  (if t.https then "https" else "http") ++ "://" ++ t.host ++ s!":{t.port.toNat}/"

/-- Where the Control Agent is, if its URL is one: an address may hold what is
none in a URL, and also what belongs to other parts of it. -/
def location? (t : Target) : Option Net.Url := Net.Url.ofText? t.url

/-- How messages name the target. -/
def label (t : Target) : String :=
  t.name.getD (t.address ++ s!":{t.port.toNat}")

end Target

end Settings

/-- All settings. -/
structure Settings where
  polling : Settings.Polling
  collecting : Settings.Collecting
  carbon : Settings.Carbon
  targets : List Settings.Target
deriving DecidableEq, Repr

/-- The settings without any target and with all else as it is left. -/
def Settings.standard : Settings := ⟨.standard, .standard, .standard, []⟩

end KeaGauge
