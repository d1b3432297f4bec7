import KeaGauge.Cycle.Reading
import KeaGauge.Kea.Statistic
/-!
# The statistics of a cycle

For every subnet of a snapshot each tracked statistic is asked for. The
points of an answer become metrics of the subnet's prefix; each metric is
held with the id it was asked for under, since only both together tell
whether the subnet is still the same.
-/

namespace KeaGauge

open Kea (Command Response Snapshot Assignment)
open Net (Cidr)

/-- A statistic to ask for: of which subnet, under which name, and what it
counts. -/
structure Request where
  id : Nat
  cidr : Cidr
  statistic : String
  key : MetricKey
deriving DecidableEq

/-- A metric with the subnet id it was asked for under. -/
structure Collected where
  id : Nat
  metric : Metric
deriving DecidableEq

/-- The assignment that a metric counts on. -/
def Collected.assignment (c : Collected) : Assignment := ⟨c.id, c.metric.cidr⟩

namespace Request

/-- The requests of a subnet, in the order of the tracked statistics. -/
def ofSubnet (s : Kea.Subnet) : List Request :=
  Kea.tracked.map fun (statistic, key) => ⟨s.id, s.cidr, Kea.statisticName s.id statistic, key⟩

/-- **The requests of a snapshot**, in the order of its subnets. -/
def planned (s : Snapshot) : List Request := s.subnets.flatMap ofSubnet

/-- The metric of a point. -/
def collect (r : Request) (p : Kea.Point) : Collected :=
  ⟨r.id, ⟨p.instant, r.cidr, r.key, p.value⟩⟩

/-- The points that a response has for a request: none unless it is a
success. -/
def points (r : Request) (response : Response) : List Kea.Point :=
  if response.isSuccess then Kea.pointsAt response.arguments r.statistic else []

/-- The metrics that a response has for a request. -/
def collected (r : Request) (response : Response) : List Collected :=
  (r.points response).map r.collect

/-- What is reported of a response to a request: malformed samples, and that
a success has no points. -/
def notices (url : String) (r : Request) (response : Response) : List Notice :=
  if response.isSuccess then
    (Kea.malformedAt response.arguments r.statistic).map (.malformedSample · r.statistic)
      ++ if (r.points response).isEmpty then [.emptyStatistic r.key r.cidr url r.statistic] else []
  else []

end Request

/-- A request with the response to it. -/
abbrev Answer := Request × Response

/-- The answers that replies hold; the first reply without a response is the
failure of all. -/
def answersOf (url : String) (requests : List Request) (replies : List Reply) :
    Except Kea.Error (List Answer) :=
  (requests.zip replies).mapM fun (r, reply) => (reply.response url).map (r, ·)

/-- What is reported of replies as they come: those that are no success. -/
def replyNotices (url : String) (commands : List Command) (replies : List Reply) : List Notice :=
  (commands.zip replies).flatMap fun (command, reply) =>
    match reply.response url with
    | .ok response => responseNotices url command response
    | .error _ => []

/-- The metrics of all answers, in their order. -/
def collectedOf (answers : List Answer) : List Collected :=
  answers.flatMap fun (r, response) => r.collected response

/-- What is reported of all answers, in their order. -/
def answerNotices (url : String) (answers : List Answer) : List Notice :=
  answers.flatMap fun (r, response) => r.notices url response

end KeaGauge
