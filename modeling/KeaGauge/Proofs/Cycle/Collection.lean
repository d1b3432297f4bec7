import KeaGauge.Proofs.Cycle.Unfolding
import KeaGauge.Proofs.Kea.Statistic
import KeaGauge.Scripted.Fixture
/-!
# What the collection of statistics brings

For each subnet of a snapshot and each tracked statistic, in this order,
there is one request, and `Contributes` says what the response to it brings:
the points found under the very name asked for, as metrics of that subnet and
key. Whatever order the answers come in, the collection brings what they
contribute, one after the other, or the failure of the first request that
failed (`collect_exact`).
-/

namespace KeaGauge

open Kea (Command Response Snapshot Subnet Sampling statisticName)
open Inquiry (Answered)
open Dialogue (Completes)
open Scripted

/-- The subnets of a snapshot, each with every tracked statistic. -/
def Kea.Snapshot.statistics (s : Snapshot) : List (Subnet × String × MetricKey) :=
  s.subnets.flatMap fun subnet =>
    Kea.tracked.map fun (statistic, key) => (subnet, statistic, key)

/-- **What a response contributes** for a statistic of a subnet: a metric for
each point of the series under its name, when the response is a success that
has this series, and nothing otherwise. -/
inductive Contributes (subnet : Subnet) (statistic : String) (key : MetricKey)
    (response : Response) : List Collected → Prop where
  | series {samples : List Json.Value} {points : List Kea.Point} (success : response.result = 0)
      (found : response.arguments.get? (statisticName subnet.id statistic) = some (.list samples))
      (sampling : Sampling samples points) :
      Contributes subnet statistic key response
        (points.map fun p => ⟨subnet.id, ⟨p.instant, subnet.cidr, key, p.value⟩⟩)
  | refused (refused : response.result ≠ 0) : Contributes subnet statistic key response []
  | missing (missing : ∀ samples,
        response.arguments.get? (statisticName subnet.id statistic) ≠ some (.list samples)) :
      Contributes subnet statistic key response []

namespace Request

/-- The request for a statistic of a subnet. -/
def ofStatistic : Subnet × String × MetricKey → Request
  | (subnet, statistic, key) => ⟨subnet.id, subnet.cidr, statisticName subnet.id statistic, key⟩

theorem planned_eq (s : Snapshot) : planned s = s.statistics.map ofStatistic := by
  simp only [planned, Snapshot.statistics, List.map_flatMap, List.map_map]
  rfl

theorem isSuccess_iff {response : Response} :
    response.isSuccess = true ↔ response.result = 0 :=
  decide_eq_true_iff

/-- A request collects what the response to it contributes. -/
theorem contributes_collected (subnet : Subnet) (statistic : String) (key : MetricKey)
    (response : Response) :
    Contributes subnet statistic key response
      ((ofStatistic (subnet, statistic, key)).collected response) := by
  unfold collected points
  by_cases hsuccess : response.isSuccess = true
  · have hresult := isSuccess_iff.1 hsuccess
    rw [if_pos hsuccess, Kea.pointsAt]
    rcases Kea.samplesAt_cases response.arguments (statisticName subnet.id statistic) with
      ⟨samples, found, hsamples⟩ | ⟨hnone, hsamples⟩
    · simp only [ofStatistic, hsamples]
      exact .series hresult found (Kea.sampling_iff.2 rfl)
    · simp only [ofStatistic, hsamples]
      exact .missing hnone
  · rw [if_neg hsuccess]
    exact .refused fun hresult => hsuccess (isSuccess_iff.2 hresult)

/-! ## The answers in replies -/

section Answers

variable {url : String} {requests : List Request}

theorem answersOf_cons (request : Request) (reply : Reply) (replies : List Reply) :
    answersOf url (request :: requests) (reply :: replies) =
      (reply.response url).bind fun response =>
        (answersOf url requests replies).map ((request, response) :: ·) := by
  simp only [answersOf, List.zip_cons_cons, List.mapM_cons]
  cases reply.response url with
  | error e => rfl
  | ok response =>
    exact (map_eq_pure_bind (List.cons (request, response)) (answersOf url requests replies)).symm

/-- When every reply has a response, the answers are the requests with
their responses. -/
theorem answersOf_eq_zip {replies : List Reply} {responses : List Response}
    (h : replies.map (Reply.response url) = responses.map .ok) :
    answersOf url requests replies = .ok (requests.zip responses) := by
  induction replies generalizing requests responses with
  | nil =>
    obtain rfl : responses = [] := by simpa using h.symm
    simp [answersOf]
    rfl
  | cons reply replies ih =>
    obtain ⟨response, responses, rfl⟩ : ∃ r rs, responses = r :: rs := by
      cases responses with
      | nil => simp at h
      | cons r rs => exact ⟨r, rs, rfl⟩
    obtain ⟨hhead, htail⟩ := List.cons.inj h
    cases requests with
    | nil => rfl
    | cons request requests =>
      rw [answersOf_cons, hhead, ih htail]
      rfl

/-- The first reply without a response is the failure of all. -/
theorem answersOf_eq_error {good : List Reply} {bad : Reply} {responses : List Response}
    {e : Kea.Error} (hgood : good.map (Reply.response url) = responses.map .ok)
    (hbad : bad.response url = .error e) (hlt : good.length < requests.length) :
    answersOf url requests (good ++ [bad]) = .error e := by
  induction good generalizing requests responses with
  | nil =>
    cases requests with
    | nil => simp at hlt
    | cons request requests =>
      rw [List.nil_append, answersOf_cons, hbad]
      rfl
  | cons reply good ih =>
    obtain ⟨response, responses, rfl⟩ : ∃ r rs, responses = r :: rs := by
      cases responses with
      | nil => simp at hgood
      | cons r rs => exact ⟨r, rs, rfl⟩
    obtain ⟨hhead, htail⟩ := List.cons.inj hgood
    cases requests with
    | nil => simp at hlt
    | cons request requests =>
      rw [List.cons_append, answersOf_cons, hhead, ih htail (by simpa using hlt)]
      rfl

end Answers

end Request

/-! ## The collection -/

namespace Collector

variable {σ τ : Type} {w : World σ} {sink : Sink τ} {c : Collector} {before : Snapshot}
variable {s s' : σ} {t t' : τ} {trace asked : List (Happening σ)} {p : Inquiry.Progress}

/-- Every reply that came holds a response. -/
def WellAnswered (c : Collector) (trace : List (Happening σ)) : Prop :=
  ∀ place command reply, Answered trace place command reply →
    ∃ response, reply.response c.url = .ok response

/-- **What the collection has to bring** when every reply holds a response:
for each subnet in the order of the snapshot, and each tracked statistic in
its order, what the response to this very request contributes. -/
def Brings (c : Collector) (before : Snapshot) (trace : List (Happening σ))
    (collected : List Collected) : Prop :=
  ∃ shares : List (List Collected), collected = shares.flatten ∧
    shares.length = before.statistics.length ∧
    ∀ place subnet statistic key, before.statistics[place]? = some (subnet, statistic, key) →
      ∃ reply response share,
        Answered trace place (.statisticGet c.family (statisticName subnet.id statistic)) reply ∧
        reply.response c.url = .ok response ∧ shares[place]? = some share ∧
        Contributes subnet statistic key response share

/-- The failure of the first request, in their order, whose reply holds no
response. -/
def FirstFailure (c : Collector) (before : Snapshot) (trace : List (Happening σ))
    (e : Kea.Error) : Prop :=
  ∃ first subnet statistic key reply, before.statistics[first]? = some (subnet, statistic, key) ∧
    Answered trace first (.statisticGet c.family (statisticName subnet.id statistic)) reply ∧
    reply.response c.url = .error e ∧
    ∀ place < first, ∀ command reply, Answered trace place command reply →
      ∃ response, reply.response c.url = .ok response

theorem isFailure_eq_false_iff {reply : Reply} :
    c.isFailure reply = false ↔ ∃ response, reply.response c.url = .ok response := by
  unfold isFailure
  cases reply.response c.url <;> simp

theorem isFailure_eq_true_iff {reply : Reply} :
    c.isFailure reply = true ↔ ∃ e, reply.response c.url = .error e := by
  unfold isFailure
  cases reply.response c.url <;> simp

/-- Replies that are no failures hold responses. -/
theorem exists_responses {replies : List Reply}
    (h : ∀ reply ∈ replies, c.isFailure reply = false) :
    ∃ responses : List Response, replies.map (Reply.response c.url) = responses.map .ok := by
  induction replies with
  | nil => exact ⟨[], rfl⟩
  | cons reply replies ih =>
    obtain ⟨response, hresponse⟩ := isFailure_eq_false_iff.1 (h reply List.mem_cons_self)
    obtain ⟨responses, hrest⟩ := ih fun r hr => h r (List.mem_cons_of_mem _ hr)
    exact ⟨response :: responses, by rw [List.map_cons, hresponse, hrest, List.map_cons]⟩

theorem commands_getElem? (c : Collector) (before : Snapshot) (place : Nat) :
    (c.inquiry (Request.planned before)).commands[place]? =
      before.statistics[place]?.map fun x =>
        .statisticGet c.family (Request.ofStatistic x).statistic := by
  rw [inquiry, List.getElem?_map, Request.planned_eq, List.getElem?_map, Option.map_map]
  rfl

/-- Where every command has a reply and every reply a response, there is a
response for each statistic. -/
theorem length_responses {taken : List Reply} {responses : List Response}
    (hlength : taken.length = (c.inquiry (Request.planned before)).commands.length)
    (hresponses : taken.map (Reply.response c.url) = responses.map .ok) :
    responses.length = before.statistics.length := by
  have hcount := congrArg List.length hresponses
  rw [List.length_map, List.length_map] at hcount
  rw [inquiry, List.length_map, Request.planned_eq, List.length_map] at hlength
  omega

/-- A response taken up at a place came to the request at this place. -/
theorem exists_answered (h : (c.inquiry (Request.planned before)).Concludes w s asked p s')
    {responses : List Response} {place : Nat} {x : Subnet × String × MetricKey}
    {response : Response}
    (hresponses : p.taken.map (Reply.response c.url) = responses.map .ok)
    (hx : before.statistics[place]? = some x) (hresponse : responses[place]? = some response) :
    ∃ reply, Answered asked place (.statisticGet c.family (Request.ofStatistic x).statistic) reply ∧
      reply.response c.url = .ok response := by
  have hplace : (p.taken.map (Reply.response c.url))[place]? = some (.ok response) := by
    rw [hresponses, List.getElem?_map, hresponse]
    rfl
  rw [List.getElem?_map, Option.map_eq_some_iff] at hplace
  obtain ⟨reply, hreply, hok⟩ := hplace
  have hlt : place < p.taken.length := (List.getElem?_eq_some_iff.1 hreply).1
  refine ⟨reply, (h.answered_iff hlt).2 ⟨?_, hreply⟩, hok⟩
  rw [commands_getElem?, hx]
  rfl

/-- **Without a failure, everything is collected**, statistic by statistic,
from the responses to the very requests for it. -/
theorem collectedFrom_eq_ok (h : (c.inquiry (Request.planned before)).Concludes w s asked p s')
    (hlength : p.taken.length = (c.inquiry (Request.planned before)).commands.length)
    (hgood : ∀ reply ∈ p.taken, c.isFailure reply = false) :
    ∃ collected, Request.collectedFrom c.url (Request.planned before) p.taken = .ok collected ∧
      c.Brings before asked collected := by
  obtain ⟨responses, hresponses⟩ := exists_responses hgood
  have hcount := length_responses hlength hresponses
  refine ⟨collectedOf ((Request.planned before).zip responses), ?_,
    ((Request.planned before).zip responses).map fun (r, response) => r.collected response,
    ?_, ?_, ?_⟩
  · rw [Request.collectedFrom, Request.answersOf_eq_zip hresponses]
    rfl
  · rw [← List.flatMap_def]
    rfl
  · rw [List.length_map, List.length_zip, Request.planned_eq, List.length_map, hcount,
      Nat.min_self]
  · intro place subnet statistic key hplace
    obtain ⟨response, hresponse⟩ : ∃ response, responses[place]? = some response :=
      ⟨_, List.getElem?_eq_getElem (hcount ▸ (List.getElem?_eq_some_iff.1 hplace).1)⟩
    obtain ⟨reply, hanswered, hok⟩ := exists_answered h hresponses hplace hresponse
    refine ⟨reply, response, _, hanswered, hok, ?_,
      Request.contributes_collected subnet statistic key response⟩
    -- request and response stand at one place of their lists
    have hpair : ((Request.planned before).zip responses)[place]? =
        some (Request.ofStatistic (subnet, statistic, key), response) := by
      refine List.getElem?_zip_eq_some.2 ⟨?_, hresponse⟩
      rw [Request.planned_eq, List.getElem?_map, hplace]
      rfl
    rw [List.getElem?_map, hpair]
    rfl

/-- **With a failure taken up, it is the first in the order of the requests**
and the failure of all. -/
theorem collectedFrom_eq_error
    (h : (c.inquiry (Request.planned before)).Concludes w s asked p s') {good : List Reply}
    {bad : Reply} {e : Kea.Error} (htaken : p.taken = good ++ [bad])
    (hgood : ∀ reply ∈ good, c.isFailure reply = false)
    (hbad : bad.response c.url = .error e) :
    Request.collectedFrom c.url (Request.planned before) p.taken = .error e ∧
      c.FirstFailure before asked e := by
  have hlength : p.taken.length = good.length + 1 := by
    rw [htaken, List.length_append, List.length_singleton]
  have hle := h.coherent.length_taken_le
  have hlt : good.length < (Request.planned before).length := by
    rw [inquiry, List.length_map] at hle
    omega
  have hstatistic : good.length < before.statistics.length := by
    rwa [Request.planned_eq, List.length_map] at hlt
  refine ⟨?_, good.length, _, _, _, bad, List.getElem?_eq_getElem hstatistic,
    (h.answered_iff (by omega)).2 ⟨?_, ?_⟩, hbad, ?_⟩
  · obtain ⟨responses, hresponses⟩ := exists_responses hgood
    rw [Request.collectedFrom, htaken, Request.answersOf_eq_error hresponses hbad hlt]
    rfl
  · rw [commands_getElem?, List.getElem?_eq_getElem hstatistic]
    rfl
  · rw [htaken, List.getElem?_concat_length]
  · intro place hplace command reply hanswered
    obtain ⟨-, hreply⟩ := (h.answered_iff (by omega)).1 hanswered
    rw [htaken, List.getElem?_append_left hplace] at hreply
    exact isFailure_eq_false_iff.1 (hgood reply (List.mem_of_getElem? hreply))

/-- What is collected is what had to be brought. -/
theorem brings_of_collectedFrom
    (h : (c.inquiry (Request.planned before)).Concludes w s asked p s')
    {collected : List Collected}
    (hok : Request.collectedFrom c.url (Request.planned before) p.taken = .ok collected) :
    c.Brings before asked collected := by
  rcases h.taken_cases with ⟨hlength, hgood⟩ | ⟨good, bad, htaken, hgood, hbad⟩
  · obtain ⟨brought, hbrought, hbrings⟩ := collectedFrom_eq_ok h hlength hgood
    rw [hok] at hbrought
    rwa [Except.ok.inj hbrought]
  · obtain ⟨e, he⟩ := isFailure_eq_true_iff.1 hbad
    rw [(collectedFrom_eq_error h htaken hgood he).1] at hok
    exact absurd hok (by simp)

/-- **Every metric comes from a request of its own**: it counts on a subnet
of the snapshot, under whose id its statistic was asked for, and is a point of
the series found in the response. -/
theorem Brings.origin {collected : List Collected} (h : c.Brings before trace collected)
    {x : Collected} (hx : x ∈ collected) :
    ∃ subnet ∈ before.subnets, ∃ statistic,
      (statistic, x.metric.key) ∈ Kea.tracked ∧ x.assignment = subnet.assignment ∧
      ∃ place reply response samples points,
        Answered trace place (.statisticGet c.family (statisticName x.id statistic)) reply ∧
        reply.response c.url = .ok response ∧ response.result = 0 ∧
        response.arguments.get? (statisticName x.id statistic) = some (.list samples) ∧
        Sampling samples points ∧ ⟨x.metric.instant, x.metric.value⟩ ∈ points := by
  obtain ⟨shares, rfl, hlength, hshares⟩ := h
  obtain ⟨share, hshare, hx⟩ := List.mem_flatten.1 hx
  obtain ⟨place, hplace, rfl⟩ := List.getElem_of_mem hshare
  obtain ⟨⟨subnet, statistic, key⟩, hasked⟩ : ∃ asked, before.statistics[place]? = some asked :=
    ⟨_, List.getElem?_eq_getElem (by omega)⟩
  obtain ⟨reply, response, share, hanswered, hresponse, hshare', hcontributes⟩ :=
    hshares place subnet statistic key hasked
  obtain rfl : shares[place] = share := by
    rw [List.getElem?_eq_getElem hplace] at hshare'
    exact Option.some.inj hshare'
  have hmem := List.mem_of_getElem? hasked
  simp only [Snapshot.statistics, List.mem_flatMap, List.mem_map, Prod.mk.injEq,
    Prod.exists] at hmem
  obtain ⟨_, hsubnet, _, _, htracked, rfl, rfl, rfl⟩ := hmem
  generalize shares[place] = share at hcontributes hx
  cases hcontributes with
  | series success found sampling =>
    obtain ⟨point, hpoint, rfl⟩ := List.mem_map.1 hx
    exact ⟨_, hsubnet, _, htracked, rfl, place, reply, response, _, _, hanswered, hresponse,
      success, found, sampling, hpoint⟩
  | refused _ => exact absurd hx List.not_mem_nil
  | missing _ => exact absurd hx List.not_mem_nil

/-- **The collection is exact.** It ends with what it has to bring when every
reply holds a response, and else with the first failure in the order of the
requests. -/
theorem collect_exact {result : Except Kea.Error (List Collected)}
    (h : Completes w sink (c.collect before .done) s t trace result s' t') :
    (c.WellAnswered trace → ∃ collected, result = .ok collected ∧ c.Brings before trace collected) ∧
      (¬ c.WellAnswered trace → ∃ e, result = .error e ∧ c.FirstFailure before trace e) := by
  obtain ⟨asked, p, s₁, _, hq, rfl, hdone⟩ := completes_collect.1 h
  obtain ⟨rfl, rfl, rfl, rfl⟩ := Dialogue.completes_done.1 hdone
  -- Only the inquiry has answers; the rest are notices.
  have hsame : ∀ place command reply,
      Answered (c.collectHappenings before asked p.taken ++ []) place command reply ↔
        Answered asked place command reply := by
    intro place command reply
    simp [Answered, collectHappenings]
  simp only [WellAnswered, Brings, FirstFailure, hsame]
  rcases hq.taken_cases with ⟨hlength, hgood⟩ | ⟨good, bad, htaken, hgood, hbad⟩
  · refine ⟨fun _ => collectedFrom_eq_ok hq hlength hgood, fun hill => ?_⟩
    refine absurd (fun place command reply hanswered => ?_) hill
    have hlt : place < p.taken.length := by
      have hcommand := ((hq.coherent.answered_iff ..).1 hanswered).1
      have := (List.getElem?_eq_some_iff.1 hcommand).1
      omega
    have hreply := ((hq.answered_iff hlt).1 hanswered).2
    exact isFailure_eq_false_iff.1 (hgood reply (List.mem_of_getElem? hreply))
  · obtain ⟨e, he⟩ := isFailure_eq_true_iff.1 hbad
    obtain ⟨hresult, hfirst⟩ := collectedFrom_eq_error hq htaken hgood he
    refine ⟨fun hwell => ?_, fun _ => ⟨e, hresult, hfirst⟩⟩
    obtain ⟨_, _, _, _, _, _, hanswered, herror, _⟩ := hfirst
    obtain ⟨response, hresponse⟩ := hwell _ _ _ hanswered
    rw [herror] at hresponse
    exact absurd hresponse (by simp)

/-- A subnet's total has a malformed sample beside a good one, its assigned
addresses are refused, and the answer for those declined holds another
series. -/
theorem collect_exact_one_subnet :
    let c : Collector := ⟨"http://192.0.2.1/", .v4, .wholeCycle, 2⟩
    let before : Snapshot := ⟨.v4, [⟨7, ⟨.ofNat .v4 0xC6336400, 24, by decide⟩, []⟩], none⟩
    let total := Fixture.statisticAnswer "subnet[7].total-addresses"
      [(3, "yesterday"), (256, "2024-05-01 10:00:00.000001")]
    let declined := Fixture.statisticAnswer "subnet[8].declined-addresses"
      [(1, "2024-05-01 10:00:00.000001")]
    let replies : List Reply :=
      [some total.text, some (Fixture.refusal 3 "no data").text, some declined.text]
    ∃ trace collected, Completes (Agent.inTurn replies).world Sink.memory (c.collect before .done)
        0 [] trace (.ok collected) 3 [] ∧
      (collected.map fun x => (x.id, x.metric.key, x.metric.value)) = [(7, .total, 256)] ∧
      c.WellAnswered trace ∧ c.Brings before trace collected := by
  intro c before total declined replies
  have hrun : ((c.collect before .done).run (Agent.inTurn replies) Sink.memory 0 []).agent = 3 ∧
      ((c.collect before .done).run (Agent.inTurn replies) Sink.memory 0 []).sink = [] ∧
      ((c.collect before .done).run (Agent.inTurn replies) Sink.memory 0 []).result.toOption.map
        (·.map fun x => (x.id, x.metric.key, x.metric.value)) = some [(7, .total, 256)] := by
    decide +kernel
  obtain ⟨hagent, hsink, hresult⟩ := hrun
  obtain ⟨trace, h, -⟩ := Dialogue.run_completes (Agent.inTurn replies) Sink.memory
    (c.collect before .done) 0 []
  rw [hagent, hsink] at h
  obtain ⟨hok, herror⟩ := collect_exact h
  have hwell : c.WellAnswered trace := by
    by_contra hill
    obtain ⟨e, he, -⟩ := herror hill
    rw [he] at hresult
    exact absurd hresult (by simp [Except.toOption])
  obtain ⟨collected, hcollected, hbrings⟩ := hok hwell
  rw [hcollected] at h hresult
  exact ⟨trace, collected, h, by simpa [Except.toOption] using hresult, hwell, hbrings⟩

end Collector

end KeaGauge
