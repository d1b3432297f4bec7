import KeaGauge.Cycle.Policy
import KeaGauge.Cycle.Report
import KeaGauge.Cycle.Statistics
/-!
# The collector

One cycle with one agent: the configuration is read, the statistics are asked
for, and the configuration is read again. Metrics are trusted when both
readings assign the same ids to the same prefixes. Otherwise the policy says
which of them are discarded. Nothing is handed to the sink before the second
reading, and then one batch at most, which is not empty.
-/

namespace KeaGauge

open Kea (Command Response Snapshot Drift)
open Net (Family)

/-- Collects from one agent. At most `concurrency` statistics may be asked
for and not answered at a time. -/
structure Collector where
  url : String
  family : Family
  policy : DiscardPolicy
  concurrency : Nat
deriving DecidableEq

/-- The metrics that a policy keeps when the configuration drifted. -/
def DiscardPolicy.kept (policy : DiscardPolicy) (drift : Drift) (collected : List Collected) :
    List Metric :=
  match policy with
  | .wholeCycle => []
  | .affectedSubnets => (collected.filter fun c => drift.isStable c.assignment).map (·.metric)

namespace Collector

variable {α : Type}

/-- Reads the configuration. -/
def read (c : Collector) (next : Except Kea.Error Reading → Dialogue α) : Dialogue α :=
  .ask (.configGet c.family) fun reply =>
    let (reading, notices) := Reading.ofReply c.url c.family reply
    .noting notices (next reading)

/-- Whether a reply has no response. -/
def isFailure (c : Collector) (reply : Reply) : Bool :=
  match reply.response c.url with
  | .ok _ => false
  | .error _ => true

/-- The inquiry for statistics. -/
def inquiry (c : Collector) (requests : List Request) : Inquiry :=
  ⟨requests.map fun r => .statisticGet c.family r.statistic, c.concurrency, c.isFailure⟩

/-- Collects the statistics of a snapshot. -/
def collect (c : Collector) (s : Snapshot)
    (next : Except Kea.Error (List Collected) → Dialogue α) : Dialogue α :=
  let requests := Request.planned s
  let inquiry := c.inquiry requests
  .askEach inquiry fun replies =>
    .noting (replyNotices c.url inquiry.commands replies)
      (match answersOf c.url requests replies with
        | .error e => next (.error e)
        | .ok answers => .noting (answerNotices c.url answers) (next (.ok (collectedOf answers))))

/-- Hands a batch to the sink, unless it is empty. -/
def emit (batch : List Metric) (next : Except SinkError Unit → Dialogue α) : Dialogue α :=
  if batch.isEmpty then next (.ok ()) else .deliver batch next

/-- Ends a cycle whose readings agree. -/
def endConsistent (c : Collector) (collected : List Collected) : Dialogue Outcome :=
  let batch := collected.map (·.metric)
  .pass .consistent (emit batch fun
    | .error e => .done (.error (.sink e))
    | .ok () =>
      .note (.emitted batch.length c.url) (.pass .done
        (.done (.ok (.consistent batch.length)))))

/-- Ends a cycle whose readings differ. -/
def endDrifted (c : Collector) (collected : List Collected) (drift : Drift) :
    Dialogue Outcome :=
  let batch := c.policy.kept drift collected
  let total := collected.length
  .pass .inconsistent (.note (.drifted c.url drift) (emit batch fun
    | .error e => .done (.error (.sink e))
    | .ok () =>
      .note (.discarded (total - batch.length) total c.url) (.pass .done
        (.done (.ok (.drifted drift batch.length (total - batch.length)))))))

/-- Ends a cycle whose second reading was refused. -/
def endUnverified (c : Collector) (collected : List Collected) (result : Int) (text : String) :
    Dialogue Outcome :=
  .pass .secondReading (.pass .inconsistent
    (.note (.unverified c.url result text collected.length) (.pass .done
      (.done (.ok (.unverified result text collected.length))))))

/-- Ends a cycle, given the second reading. -/
def conclude (c : Collector) (before : Snapshot) (collected : List Collected) :
    Except Kea.Error Reading → Dialogue Outcome
  | .error e => .done (.error (.kea e))
  | .ok (.refused result text) => c.endUnverified collected result text
  | .ok (.snapshot after) =>
    if after.isEmpty then .done (.error .noSubnets)
    else
      .pass .secondReading (match before.drift? after with
        | none => c.endConsistent collected
        | some drift => c.endDrifted collected drift)

/-- **One cycle.** -/
def cycle (c : Collector) : Dialogue Outcome :=
  c.read fun
    | .error e => .done (.error (.kea e))
    | .ok (.refused result text) => .done (.error (.configRefused result text))
    | .ok (.snapshot before) =>
      if before.isEmpty then .done (.error .noSubnets)
      else
        .pass .firstReading (c.collect before fun
          | .error e => .done (.error (.kea e))
          | .ok collected => .pass .statistics (c.read (c.conclude before collected)))

end Collector

end KeaGauge
