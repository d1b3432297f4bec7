import KeaGauge.Carbon.Path
import KeaGauge.Settings.Basic
/-!
# Writing to carbon

A batch is written as one payload of lines, each of a path, a value and the
seconds since the start of 1970. A metric gives a line for each of its paths.
-/

namespace KeaGauge.Carbon

/-- Writes metrics to a receiver. -/
structure Writer where
  host : String
  port : UInt16
  timeout : UInt64
  scheme : PathScheme
  perServerPaths : Bool
deriving DecidableEq, Repr

namespace Writer

/-- The writer of the settings. -/
def ofSettings (s : Settings.Carbon) : Writer :=
  ⟨s.host, s.port, s.timeout, .ofRoot s.root, s.perServerPaths⟩

/-- The writer for the metrics of one target. -/
def forTarget (w : Writer) (t : Settings.Target) : Writer :=
  if w.perServerPaths then { w with scheme := w.scheme.withServer t.address t.port.toNat } else w

/-- How messages name the receiver. -/
def endpoint (w : Writer) : String := w.host ++ s!":{w.port.toNat}"

/-- The line of a metric under a path, with its end. -/
def line (m : Metric) (path : String) : String :=
  path ++ s!" {m.value} {m.instant.epoch}\n"

/-- The lines of a metric. -/
def lines (w : Writer) (m : Metric) : List String := (w.scheme.paths m).map (line m)

/-- **The payload of a batch.** -/
def payload (w : Writer) (batch : List Metric) : String :=
  String.join (batch.flatMap w.lines)

end Writer

end KeaGauge.Carbon
