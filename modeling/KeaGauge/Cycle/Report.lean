import KeaGauge.Kea.Drift
import KeaGauge.Kea.Error
import KeaGauge.Sink.Basic
/-!
# Outcomes of a cycle

A cycle ends with a report or with an error. It reports whether both readings
of the configuration agreed and how many metrics it handed to the sink; an
error means that the sink holds nothing of the cycle.
-/

namespace KeaGauge

/-- What a cycle reports that came to its end. -/
inductive Report where
  | consistent (emitted : Nat)
  /-- The subnets changed between the readings of the configuration. -/
  | drifted (drift : Kea.Drift) (emitted suppressed : Nat)
  /-- The second reading was refused, so nothing could be verified. -/
  | unverified (result : Int) (text : String) (suppressed : Nat)
deriving DecidableEq

namespace Report

/-- How many metrics the sink was handed. -/
def emitted : Report → Nat
  | consistent n | drifted _ n _ => n
  | unverified _ _ _ => 0

/-- Whether both readings agreed. -/
def isConsistent : Report → Bool
  | consistent _ => true
  | _ => false

end Report

/-- Why a cycle did not come to its end. -/
inductive CollectionError where
  | kea (error : Kea.Error)
  /-- The first reading of the configuration was refused. -/
  | configRefused (result : Int) (text : String)
  | noSubnets
  | sink (error : SinkError)

/-- What is said of the error. -/
def CollectionError.message : CollectionError → String
  | kea error => error.message
  | configRefused result text =>
    s!"Kea refused to hand out its configuration (result {result}): " ++ text
  | noSubnets => "Kea configuration contains no usable subnets"
  | sink error => "failed to emit metrics: " ++ error.message

/-- How a cycle ends. -/
abbrev Outcome := Except CollectionError Report

namespace Outcome

/-- How many metrics the sink was handed. -/
def emitted : Outcome → Nat
  | .ok report => report.emitted
  | .error _ => 0

/-- Whether the cycle came to its end. -/
def isSuccess : Outcome → Bool
  | .ok _ => true
  | .error _ => false

/-- How many cycles did not come to their end. -/
def failed (outcomes : List Outcome) : Nat :=
  (outcomes.filter fun o => !o.isSuccess).length

end Outcome

end KeaGauge
