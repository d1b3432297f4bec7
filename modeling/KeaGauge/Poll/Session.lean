import KeaGauge.Poll.Pass
/-!
# Sessions

A poller makes pass after pass until it is stopped. It may be stopped while
it waits for the next pass, or in the midst of a pass, which is abandoned
then: nothing more is asked, delivered or reported.
-/

namespace KeaGauge

variable {σ τ : Type}

namespace Dialogue

variable {α : Type}

/-- Holds a dialogue up to the first question that leaves the agent in a
state where everything halts. Without a result it was abandoned there. -/
def runUntil (halts : σ → Bool) (agent : Agent σ) (sink : Sink τ) :
    Dialogue α → σ → τ → Course (Option α) σ τ
  | .done result, s, t => ⟨some result, [], s, t⟩
  | .ask command next, s, t =>
    let (reply, s) := agent s command
    if halts s then ⟨none, [.asked command], s, t⟩
    else
      let course := (next reply).runUntil halts agent sink s t
      { course with events := .asked command :: course.events }
  | .askEach inquiry next, s, t =>
    let stops (reply : Reply) (s : σ) : Bool := halts s || inquiry.isFailure reply
    let (replies, s) := Inquiry.inOrder agent stops inquiry.commands s
    let asked := (inquiry.asked replies).map Event.asked
    if halts s then ⟨none, asked, s, t⟩
    else
      let course := (next replies).runUntil halts agent sink s t
      { course with events := asked ++ course.events }
  | .deliver batch next, s, t =>
    let (taken, t) := sink t batch
    let course := (next taken).runUntil halts agent sink s t
    { course with events := .delivered batch :: course.events }
  | .note notice next, s, t =>
    let course := next.runUntil halts agent sink s t
    { course with events := .noted notice :: course.events }
  | .pass stage next, s, t =>
    let course := next.runUntil halts agent sink s t
    { course with events := .passed stage :: course.events }

end Dialogue

/-- How a session went: what was reported, the transitions made, and the
states of the agents and sinks at its end, in the order of the stations. -/
structure Session (σ τ : Type) where
  notices : List PassNotice
  transitions : List Transition
  agents : List σ
  sinks : List τ

namespace Session

/-- A session that is stopped after its first pass. -/
def ofOnePass (s : Settings.Collecting) (stations : List (Station σ τ)) : Session σ τ :=
  let visits := pass s stations
  ⟨PassNotice.opening stations ++ visits.flatMap Visit.notices
      ++ PassNotice.ofOutcomes (visits.map Visit.outcome) ++ [.stopping],
    visits.flatMap Visit.transitions,
    visits.map (·.course.agent), visits.map (·.course.sink)⟩

/-- The part of a pass before everything halts, the stations visited in
their order. -/
def untilHalt (s : Settings.Collecting) (halts : σ → Bool) :
    List (Station σ τ) → Session σ τ
  | [] => ⟨[], [], [], []⟩
  | x :: rest =>
    let course := (Collector.ofTarget x.target s).cycle.runUntil halts x.agent x.sink
      x.agentState x.sinkState
    let noted := (Event.notices course.events).map PassNotice.cycle
    let transitions := Event.transitions course.events
    match course.result with
    | none =>
      ⟨noted, transitions, course.agent :: rest.map (·.agentState),
        course.sink :: rest.map (·.sinkState)⟩
    | some outcome =>
      let later := untilHalt s halts rest
      ⟨noted ++ PassNotice.ofOutcome x.target.label outcome ++ later.notices,
        transitions ++ later.transitions,
        course.agent :: later.agents, course.sink :: later.sinks⟩

/-- A session that is stopped in the midst of its first pass. -/
def ofAbandonedPass (s : Settings.Collecting) (halts : σ → Bool)
    (stations : List (Station σ τ)) : Session σ τ :=
  let session := untilHalt s halts stations
  { session with notices := PassNotice.opening stations ++ session.notices ++ [.stopping] }

end Session

end KeaGauge
