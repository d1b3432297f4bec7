import KeaGauge.Cycle.Collector
import KeaGauge.Poll.Notice
import KeaGauge.Settings.Basic
/-!
# Passes

A pass runs one cycle with every target. The cycles have nothing to do with
each other: each has an agent and a sink of its own, so how one of them goes
does not depend on when the others run.
-/

namespace KeaGauge

variable {σ τ : Type}

/-- The collector of a target. -/
def Collector.ofTarget (t : Settings.Target) (s : Settings.Collecting) : Collector :=
  ⟨t.url, t.family, s.policy, max 1 s.concurrency.toNat⟩

/-- A target with the agent and the sink of its cycle, and their states. -/
structure Station (σ τ : Type) where
  target : Settings.Target
  agent : Agent σ
  sink : Sink τ
  agentState : σ
  sinkState : τ

/-- How the cycle with a target went. -/
structure Visit (σ τ : Type) where
  label : String
  course : Course Outcome σ τ

namespace Visit

/-- How the cycle ended. -/
def outcome (v : Visit σ τ) : Outcome := v.course.result

/-- What is reported of the cycle and of its end. -/
def notices (v : Visit σ τ) : List PassNotice :=
  (Event.notices v.course.events).map .cycle ++ PassNotice.ofOutcome v.label v.outcome

/-- The transitions of the cycle. -/
def transitions (v : Visit σ τ) : List Transition := Event.transitions v.course.events

end Visit

/-- The cycle with one target. -/
def Station.visit (s : Settings.Collecting) (x : Station σ τ) : Visit σ τ :=
  ⟨x.target.label,
    (Collector.ofTarget x.target s).cycle.run x.agent x.sink x.agentState x.sinkState⟩

/-- **A pass** over stations, its visits in their order. -/
def pass (s : Settings.Collecting) (stations : List (Station σ τ)) : List (Visit σ τ) :=
  stations.map (Station.visit s)

end KeaGauge
