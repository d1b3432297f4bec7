/-!
# Discard policies

When the configuration drifted while the statistics were read, metrics may
belong to another subnet than they seem to. The policy says which of them are
discarded.
-/

namespace KeaGauge

/-- What is discarded when the configuration drifted. -/
inductive DiscardPolicy where
  /-- Every metric of the cycle. -/
  | wholeCycle
  /-- The metrics of subnets that were removed or re-prefixed. -/
  | affectedSubnets
deriving DecidableEq, Repr, Inhabited

namespace DiscardPolicy

/-- The name of a policy in settings. -/
def text : DiscardPolicy → String
  | wholeCycle => "whole-cycle"
  | affectedSubnets => "affected-subnets"

/-- The policy of a name. -/
def ofText? (s : String) : Option DiscardPolicy :=
  [wholeCycle, affectedSubnets].find? (·.text = s)

end DiscardPolicy

end KeaGauge
