import KeaGauge.Net.Address
/-!
# The two DHCP services

A Control Agent fronts a DHCP server for each family of addresses. The
servers differ in how a command names them, in how their configuration is
headed, and in the name of their subnet lists.
-/

namespace KeaGauge.Kea

open Net (Family)

/-- How a command names the server of a family. -/
def serviceName : Family → String
  | .v4 => "dhcp4"
  | .v6 => "dhcp6"

/-- The member of a configuration document that holds a server's section. -/
def sectionName : Family → String
  | .v4 => "Dhcp4"
  | .v6 => "Dhcp6"

/-- The member of a section, or of a shared network, that lists subnets. -/
def subnetsName : Family → String
  | .v4 => "subnet4"
  | .v6 => "subnet6"

/-- How messages name the protocol of a family. -/
def protocolName (family : Family) : String := s!"DHCPv{family.number}"

/-- The family whose section a member of a document holds. -/
def familyOfSection? (name : String) : Option Family :=
  [Family.v4, Family.v6].find? (sectionName · = name)

/-- What is said of a number that is not the number of a family. -/
def unsupportedVersion (n : Nat) : String :=
  s!"unsupported DHCP version {n}, expected 4 or 6"

end KeaGauge.Kea
