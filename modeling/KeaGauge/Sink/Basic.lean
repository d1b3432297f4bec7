import KeaGauge.Metric
/-!
# Sinks

A sink takes batches of metrics. It may refuse one, and what it does may
depend on the batches before.
-/

namespace KeaGauge

/-- Why a sink refused a batch. -/
inductive SinkError where
  | io (cause : String)
  | timedOut (endpoint : String)
deriving DecidableEq, Repr

/-- What is said of a refusal. -/
def SinkError.message : SinkError → String
  | io cause => "carbon I/O error: " ++ cause
  | timedOut endpoint => "timed out talking to carbon at " ++ endpoint

/-- How a sink in a state takes a batch: whether it refuses it, and the state
after. -/
abbrev Sink (τ : Type) := τ → List Metric → Except SinkError Unit × τ

namespace Sink

/-- A sink that holds every metric it has taken. -/
def memory : Sink (List Metric) := fun held batch => (.ok (), held ++ batch)

/-- A sink that refuses every batch. -/
def refusing (error : SinkError) : Sink (List Metric) := fun held _ => (.error error, held)

end Sink

end KeaGauge
