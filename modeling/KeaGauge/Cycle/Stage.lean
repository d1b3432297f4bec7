/-!
# Stages of a cycle

A cycle passes through stages: the first reading of the configuration, the
reading of the statistics, the second reading of the configuration, and the
verdict on whether both readings agree.
-/

namespace KeaGauge

/-- How far a cycle has come. -/
inductive Stage where
  | start
  | firstReading
  | statistics
  | secondReading
  | consistent
  | inconsistent
  | done
deriving DecidableEq, Repr

namespace Stage

/-- All stages. -/
def all : List Stage :=
  [start, firstReading, statistics, secondReading, consistent, inconsistent, done]

/-- The name of a stage. -/
def name : Stage → String
  | start => "START"
  | firstReading => "CONFIG_FETCHED_1"
  | statistics => "STATS_COLLECTED"
  | secondReading => "CONFIG_FETCHED_2"
  | consistent => "CONSISTENT"
  | inconsistent => "INCONSISTENT"
  | done => "DONE"

end Stage

/-- A step from one stage to another. -/
structure Transition where
  source : Stage
  target : Stage
deriving DecidableEq, Repr

/-- The text of a transition. -/
def Transition.text (t : Transition) : String :=
  t.source.name ++ " -> " ++ t.target.name

end KeaGauge
