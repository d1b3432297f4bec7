import KeaGauge.Metric
/-!
# Metric paths

Carbon keeps metrics in a tree, named by paths of components with points
between them. A metric has a path under its subnet, and may have another one
under the server it came from. What is not under the library's control, a
prefix or an address, is escaped so that it stays a single component.
-/

namespace KeaGauge.Carbon

open Net (Cidr)

/-- One character of a path component. -/
def escapeChar (c : Char) : Char :=
  if c = '.' ∨ c = ':' ∨ c = '/' then '_' else c

/-- A text as a single path component. -/
def escape (s : String) : String := String.ofList (s.toList.map escapeChar)

/-- Under which paths metrics are written: the components that every path
starts with, and the component that names the server, if there are paths
under it. -/
structure PathScheme where
  root : String
  server : Option String
deriving DecidableEq, Repr

namespace PathScheme

/-- Paths under subnets only. -/
def ofRoot (root : String) : PathScheme := ⟨root, none⟩

/-- Paths under a server as well. -/
def withServer (s : PathScheme) (address : String) (port : Nat) : PathScheme :=
  { s with server := some (escape address ++ "_" ++ Nat.repr port) }

/-- The path of a subnet's metric. -/
def subnetPath (s : PathScheme) (cidr : Cidr) (key : MetricKey) : String :=
  ".".intercalate [s.root, "dhcp", "subnets", escape cidr.text, key.text]

/-- The path of a subnet's metric under a server. -/
def pathUnder (s : PathScheme) (server : String) (cidr : Cidr) (key : MetricKey) : String :=
  ".".intercalate [s.root, "dhcp", "servers", server, "subnets", escape cidr.text, key.text]

/-- The path of a subnet's metric under the server, if there is one. -/
def serverPath? (s : PathScheme) (cidr : Cidr) (key : MetricKey) : Option String :=
  s.server.map (s.pathUnder · cidr key)

/-- **The paths of a metric.** -/
def paths (s : PathScheme) (m : Metric) : List String :=
  s.subnetPath m.cidr m.key :: (s.serverPath? m.cidr m.key).toList

end PathScheme

end KeaGauge.Carbon
