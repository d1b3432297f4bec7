import KeaGauge.Kea.Service
import KeaGauge.Json.Printer
/-!
# Commands

A command names what is to be done, with arguments, and the services it is
for. It travels as one JSON object.
-/

namespace KeaGauge.Kea

open Net (Family)
open Json (Value Object)

/-- A command to a Control Agent. -/
structure Command where
  name : String
  services : List Family
  arguments : Object

namespace Command

/-- Asks for a server's configuration. -/
def configGet (family : Family) : Command :=
  ⟨"config-get", [family], .empty⟩

/-- Asks for the samples of one statistic. -/
def statisticGet (family : Family) (statistic : String) : Command :=
  ⟨"statistic-get", [family], Object.empty.insert "name" (.string statistic)⟩

/-- The body that carries the command: its name, its arguments and its
services, in this order. -/
def body (c : Command) : String :=
  String.ofList ("\x7b\"command\":".toList ++ Json.quote c.name.toList
    ++ ",\"arguments\":".toList ++ (Value.object c.arguments).chars
    ++ ",\"service\":".toList ++ (Value.ofTexts (c.services.map serviceName)).chars
    ++ "\x7d".toList)

end Command

end KeaGauge.Kea
