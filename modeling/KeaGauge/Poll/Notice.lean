import KeaGauge.Cycle.Report
import KeaGauge.Notice
/-!
# Notices of a pass

What a poller has to report: the notices of its cycles, the cycles that did
not come to their end, and what concerns the poller itself.
-/

namespace KeaGauge

/-- Something to report about a pass. -/
inductive PassNotice where
  /-- A notice of the cycle with one target. -/
  | cycle (notice : Notice)
  | unfetched (label : String) (error : CollectionError)
  | unwritten (label : String) (error : SinkError)
  | noTargets
  | failures (failed total : Nat)
  | stopping

namespace PassNotice

/-- How serious the notice is. -/
def level : PassNotice → Level
  | cycle notice => notice.level
  | unwritten _ _ => .error
  | stopping => .info
  | _ => .warn

/-- What the notice says. -/
def message : PassNotice → String
  | cycle notice => notice.message
  | unfetched label error =>
    "Could not fetch metrics from Kea server " ++ label ++ ": " ++ error.message
  | unwritten label error =>
    "Could not write metrics from " ++ label ++ " to carbon: " ++ error.message
  | noTargets => "No Kea Control Agent targets configured"
  | failures failed total => s!"{failed} of {total} target(s) failed this pass"
  | stopping => "Shutting down poller"

/-- What is reported before the first pass over targets. -/
def opening {α : Type} (targets : List α) : List PassNotice :=
  if targets.isEmpty then [noTargets] else []

/-- What is reported of how the cycle with a target ended. -/
def ofOutcome (label : String) : Outcome → List PassNotice
  | .ok _ => []
  | .error (.sink error) => [unwritten label error]
  | .error error => [unfetched label error]

/-- What is reported of how the cycles of a pass ended. -/
def ofOutcomes (outcomes : List Outcome) : List PassNotice :=
  let failed := Outcome.failed outcomes
  if failed = 0 then [] else [failures failed outcomes.length]

end PassNotice

end KeaGauge
