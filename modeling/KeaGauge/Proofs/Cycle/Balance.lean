import KeaGauge.Proofs.Cycle.Collection
/-!
# The balance of a collection

No gap in what is collected goes without a notice. The response to a request
holds samples under the name asked for and contributes metrics, and both are
put down in the `Account` of the request. A sample that became no metric is
reported as malformed. A request that brought no metric was refused, which is
reported of its reply, or is reported as empty. So metrics and notices balance
the samples that came and the statistics that were planned (`Balanced`), for
the accounts of one request each (`Account.notices_eq`) as for a whole
collection (`collect_balanced`).
-/

namespace KeaGauge

open Kea (Command Response Snapshot Subnet statisticName)
open Inquiry (Answered)
open Dialogue (Completes)
open Scripted

/-! ## Notices by cause -/

namespace Notice

/-- A sample was left out. -/
def isMalformedSample : Notice → Bool
  | malformedSample _ _ => true
  | _ => false

/-- A command was refused. -/
def isUnfulfilled : Notice → Bool
  | unfulfilled _ _ _ _ => true
  | _ => false

/-- A statistic was granted, and brought nothing. -/
def isEmptyStatistic : Notice → Bool
  | emptyStatistic _ _ _ _ => true
  | _ => false

end Notice

/-! ## Samples -/

/-- **The samples that a response holds under a name**: the elements of the
list there, when the response is a success that has one, and none otherwise. -/
inductive Holds (name : String) (response : Response) : List Json.Value → Prop where
  | series {samples : List Json.Value} (success : response.result = 0)
      (found : response.arguments.get? name = some (.list samples)) : Holds name response samples
  | refused (refused : response.result ≠ 0) : Holds name response []
  | missing (missing : ∀ samples, response.arguments.get? name ≠ some (.list samples)) :
      Holds name response []

/-- They are those that the reader of series finds in a success. -/
theorem holds_iff {name : String} {response : Response} {samples : List Json.Value} :
    Holds name response samples ↔
      samples = if response.isSuccess then Kea.samplesAt response.arguments name else [] := by
  constructor
  · intro h
    cases h with
    | series success found =>
      rw [if_pos (Request.isSuccess_iff.2 success), Kea.samplesAt_of_list found]
    | refused refused => rw [if_neg fun h => refused (Request.isSuccess_iff.1 h)]
    | missing missing => rw [Kea.samplesAt_of_not_list missing, ite_self]
  · rintro rfl
    by_cases hsuccess : response.isSuccess = true
    · rw [if_pos hsuccess]
      rcases Kea.samplesAt_cases response.arguments name with
        ⟨samples, found, hsamples⟩ | ⟨hnone, hsamples⟩
      · exact hsamples ▸ .series (Request.isSuccess_iff.1 hsuccess) found
      · exact hsamples ▸ .missing hnone
    · rw [if_neg hsuccess]
      exact .refused fun hresult => hsuccess (Request.isSuccess_iff.2 hresult)

/-- What a response contributes is what its request collects, a metric for
each of its samples that is a point. -/
theorem Contributes.share_eq {subnet : Subnet} {statistic : String} {key : MetricKey}
    {response : Response} {samples : List Json.Value} {share : List Collected}
    (h : Contributes subnet statistic key response share)
    (hholds : Holds (statisticName subnet.id statistic) response samples) :
    share = (samples.filterMap Kea.Point.ofSample?).map
      (Request.ofStatistic (subnet, statistic, key)).collect := by
  have hsamples := holds_iff.1 hholds
  cases h with
  | series success found sampling =>
    rw [hsamples, if_pos (Request.isSuccess_iff.2 success), Kea.samplesAt_of_list found,
      Kea.sampling_iff.1 sampling]
    rfl
  | refused refused =>
    rw [hsamples, if_neg fun h => refused (Request.isSuccess_iff.1 h)]
    rfl
  | missing missing =>
    rw [hsamples, Kea.samplesAt_of_not_list missing, ite_self]
    rfl

/-! ## Accounts -/

/-- **What came of a request**: the response to it, the samples that this
holds under the name asked for, and the metrics that it contributes. -/
structure Account where
  subnet : Subnet
  statistic : String
  key : MetricKey
  response : Response
  samples : List Json.Value
  share : List Collected
  holds : Holds (statisticName subnet.id statistic) response samples
  contributes : Contributes subnet statistic key response share

namespace Account

variable {url : String} {accounts : List Account}

/-- The account of a statistic of a subnet, given the response to the request
for it. -/
def of (asked : Subnet × String × MetricKey) (response : Response) : Account where
  subnet := asked.1
  statistic := asked.2.1
  key := asked.2.2
  response := response
  samples :=
    if response.isSuccess then
      Kea.samplesAt response.arguments (statisticName asked.1.id asked.2.1)
    else []
  share := (Request.ofStatistic asked).collected response
  holds := holds_iff.2 rfl
  contributes := Request.contributes_collected ..

/-- The statistic of a subnet that was asked for. -/
def asked (a : Account) : Subnet × String × MetricKey := (a.subnet, a.statistic, a.key)

/-- The name that it was asked for under. -/
def name (a : Account) : String := statisticName a.subnet.id a.statistic

/-- The request for it. -/
def request (a : Account) : Request := .ofStatistic a.asked

/-- The request brought a metric. -/
def isFruitful (a : Account) : Bool := !a.share.isEmpty

/-- The agent refused the request. -/
def isRefused (a : Account) : Bool := a.response.result ≠ 0

/-- The agent granted the request, and yet it brought no metric. -/
def isEmpty (a : Account) : Bool := a.response.result = 0 && a.share.isEmpty

/-- The samples that are no points. -/
def malformed (a : Account) : List Json.Value :=
  a.samples.filter fun v => (Kea.Point.ofSample? v).isNone

/-- What is reported of a refused request. -/
def refusal (url : String) (a : Account) : Notice :=
  .unfulfilled url "statistic-get" a.response.result a.response.text

/-- What is reported of an empty one. -/
def gap (url : String) (a : Account) : Notice :=
  .emptyStatistic a.key a.subnet.cidr url a.name

/-! ### One account -/

theorem isRefused_eq (a : Account) : a.isRefused = !a.response.isSuccess := decide_not

theorem isEmpty_eq (a : Account) : a.isEmpty = (a.response.isSuccess && a.share.isEmpty) := rfl

/-- A refused request brings no samples. -/
theorem samples_eq_nil {a : Account} (h : a.response.isSuccess = false) : a.samples = [] := by
  rw [holds_iff.1 a.holds, h, if_neg Bool.false_ne_true]

/-- Each sample that is a point became a metric. -/
theorem share_eq (a : Account) :
    a.share = (a.samples.filterMap Kea.Point.ofSample?).map a.request.collect :=
  a.contributes.share_eq a.holds

/-- What the request collects is its share. -/
theorem collected_eq (a : Account) : a.request.collected a.response = a.share := by
  rw [share_eq, holds_iff.1 a.holds, Request.collected, Request.points]
  split <;> rfl

/-- **A sample became a metric or is malformed.** -/
theorem length_samples (a : Account) :
    a.samples.length = a.share.length + a.malformed.length := by
  have hmalformed : a.malformed.length =
      a.samples.countP fun v => decide ¬ (Kea.Point.ofSample? v).isSome = true := by
    rw [malformed, ← List.countP_eq_length_filter]
    exact List.countP_congr fun v _ => by simp
  rw [share_eq, List.length_map, List.length_filterMap_eq_countP, hmalformed]
  exact List.length_eq_countP_add_countP _

/-- **A request is fruitful, refused or empty**, and only one of these. -/
theorem fruitful_refused_or_empty (a : Account) :
    (if a.isFruitful then 1 else 0) + (if a.isRefused then 1 else 0) +
      (if a.isEmpty then 1 else 0) = 1 := by
  rw [isFruitful, isRefused_eq, isEmpty_eq]
  cases hsuccess : a.response.isSuccess with
  | true => cases a.share.isEmpty <;> rfl
  | false =>
    rw [share_eq, samples_eq_nil hsuccess]
    rfl

/-- **What is reported of a reply**: that the request was refused. -/
theorem responseNotices_eq (url : String) (family : Net.Family) (a : Account) :
    responseNotices url (.statisticGet family a.name) a.response =
      if a.isRefused then [a.refusal url] else [] := by
  rw [responseNotices, isRefused_eq]
  cases a.response.isSuccess <;> rfl

/-- **What is reported of an answer**: its malformed samples, and that the
request is empty. -/
theorem notices_eq (url : String) (a : Account) :
    a.request.notices url a.response =
      a.malformed.map (.malformedSample · a.name) ++ if a.isEmpty then [a.gap url] else [] := by
  rw [Request.notices, isEmpty_eq, malformed, ← collected_eq, Request.collected, List.isEmpty_map]
  cases hsuccess : a.response.isSuccess with
  | true =>
    rw [holds_iff.1 a.holds, hsuccess]
    rfl
  | false =>
    rw [samples_eq_nil hsuccess]
    rfl

/-! ### All accounts -/

/-- Items of one kind make an element each. -/
theorem flatMap_ite {α β : Type} (p : α → Bool) (f : α → β) (items : List α) :
    (items.flatMap fun a => if p a then [f a] else []) = (items.filter p).map f := by
  induction items with
  | nil => rfl
  | cons a items ih =>
    rw [List.flatMap_cons, ih]
    cases h : p a <;> simp [h]

/-- What is reported of requests: first the refusals, as their replies come,
and then what is reported of the answers. -/
def reported (url : String) (accounts : List Account) : List Notice :=
  (accounts.filter isRefused).map (refusal url) ++
    accounts.flatMap fun a =>
      a.malformed.map (.malformedSample · a.name) ++ if a.isEmpty then [a.gap url] else []

/-- Each refusal is reported once. -/
theorem filter_isUnfulfilled_reported :
    (reported url accounts).filter Notice.isUnfulfilled =
      (accounts.filter isRefused).map (refusal url) := by
  simp [reported, List.filter_flatMap, List.filter_map, Function.comp_def, apply_ite, refusal,
    gap, Notice.isUnfulfilled]

/-- Each empty request is reported once. -/
theorem filter_isEmptyStatistic_reported :
    (reported url accounts).filter Notice.isEmptyStatistic =
      (accounts.filter isEmpty).map (gap url) := by
  have hgap : ∀ a : Account,
      (if a.isEmpty then [a.gap url] else []).filter Notice.isEmptyStatistic =
        if a.isEmpty then [a.gap url] else [] := fun a => by split <;> rfl
  simp [reported, List.filter_flatMap, List.filter_map, Function.comp_def, hgap, refusal,
    Notice.isEmptyStatistic, flatMap_ite]

/-- Each malformed sample is reported once. -/
theorem filter_isMalformedSample_reported :
    (reported url accounts).filter Notice.isMalformedSample =
      accounts.flatMap fun a => a.malformed.map (.malformedSample · a.name) := by
  simp [reported, List.filter_flatMap, List.filter_map, Function.comp_def, apply_ite, refusal,
    gap, Notice.isMalformedSample]

/-- **Every sample became a metric or is reported.** -/
theorem length_samples_eq :
    (accounts.flatMap samples).length =
      (accounts.flatMap share).length +
        (reported url accounts).countP Notice.isMalformedSample := by
  rw [List.countP_eq_length_filter, filter_isMalformedSample_reported]
  induction accounts with
  | nil => rfl
  | cons a accounts ih =>
    have hone := a.length_samples
    simp only [List.flatMap_cons, List.length_append, List.length_map]
    omega

/-- **Every request brought a metric, was refused or is reported.** -/
theorem length_eq :
    accounts.length = accounts.countP isFruitful + accounts.countP isRefused +
      (reported url accounts).countP Notice.isEmptyStatistic := by
  rw [List.countP_eq_length_filter (p := Notice.isEmptyStatistic),
    filter_isEmptyStatistic_reported, List.length_map, ← List.countP_eq_length_filter]
  induction accounts with
  | nil => rfl
  | cons a accounts ih =>
    have hone := a.fruitful_refused_or_empty
    simp only [List.length_cons, List.countP_cons]
    omega

end Account

/-! ## The notices of a collection -/

namespace Happening

variable {σ : Type}

theorem notices_append (trace more : List (Happening σ)) :
    Event.notices (events (trace ++ more)) =
      Event.notices (events trace) ++ Event.notices (events more) := by
  rw [events, List.filterMap_append]
  exact List.filterMap_append

theorem notices_noted (notices : List Notice) :
    Event.notices (events (notices.map (noted (σ := σ)))) = notices := by
  simp [Event.notices, events, event?, List.filterMap_map, Function.comp_def]

end Happening

/-- What is reported of replies that hold responses is what is reported of
these. -/
theorem replyNotices_of_responses {url : String} {commands : List Command} {replies : List Reply}
    {responses : List Response} (h : replies.map (Reply.response url) = responses.map .ok) :
    replyNotices url commands replies =
      (commands.zip responses).flatMap fun (command, response) =>
        responseNotices url command response := by
  induction replies generalizing commands responses with
  | nil =>
    obtain rfl : responses = [] := by simpa using h.symm
    rw [replyNotices, List.zip_nil_right, List.zip_nil_right]
    rfl
  | cons reply replies ih =>
    cases responses with
    | nil => simp at h
    | cons response responses =>
      obtain ⟨hhead, htail⟩ := List.cons.inj h
      cases commands with
      | nil => rfl
      | cons command commands =>
        rw [List.zip_cons_cons, List.flatMap_cons, ← ih htail]
        simp [replyNotices, hhead]

namespace Collector

variable {σ τ : Type} {w : World σ} {sink : Sink τ} {c : Collector} {before : Snapshot}
variable {s s' : σ} {t t' : τ} {trace asked : List (Happening σ)} {p : Inquiry.Progress}
variable {collected : List Collected}

/-- **The accounts of a collection**: one of each planned statistic, in their
order, with the response that came to the request at its place; and together
they hold what was collected. -/
structure Accounted (c : Collector) (before : Snapshot) (trace : List (Happening σ))
    (collected : List Collected) (accounts : List Account) : Prop where
  planned : accounts.map Account.asked = before.statistics
  answered : ∀ place a, accounts[place]? = some a →
    ∃ reply, Answered trace place (.statisticGet c.family a.name) reply ∧
      reply.response c.url = .ok a.response
  collected_eq : collected = accounts.flatMap Account.share

/-- **Notices and metrics balance what came and what was planned.** -/
structure Balanced (c : Collector) (before : Snapshot) (notices : List Notice)
    (collected : List Collected) (accounts : List Account) : Prop where
  /-- Every sample is a metric or reported as malformed. -/
  samples : (accounts.flatMap Account.samples).length =
    collected.length + notices.countP Notice.isMalformedSample
  /-- Every statistic brought a metric, was refused, or is reported as empty. -/
  statistics : before.statistics.length =
    accounts.countP Account.isFruitful + accounts.countP Account.isRefused +
      notices.countP Notice.isEmptyStatistic
  /-- Each refusal is reported once. -/
  refusals : notices.filter Notice.isUnfulfilled =
    (accounts.filter Account.isRefused).map (Account.refusal c.url)
  /-- Each empty statistic is reported once, with its key, prefix and name. -/
  gaps : notices.filter Notice.isEmptyStatistic =
    (accounts.filter Account.isEmpty).map (Account.gap c.url)
  /-- Each malformed sample is reported once, with the name it was found under. -/
  malformed : notices.filter Notice.isMalformedSample =
    accounts.flatMap fun a => a.malformed.map (.malformedSample · a.name)

/-- The notices of a collection that came to its end are those on its
accounts. -/
theorem collectionNotices_eq {accounts : List Account} {responses : List Response}
    {taken : List Reply} (hresponses : taken.map (Reply.response c.url) = responses.map .ok)
    (hpairs : (Request.planned before).zip responses =
      accounts.map fun a => (a.request, a.response)) :
    Request.collectionNotices c.url (c.inquiry (Request.planned before)).commands
      (Request.planned before) taken = Account.reported c.url accounts := by
  have hcommands : (c.inquiry (Request.planned before)).commands.zip responses =
      accounts.map fun a => (.statisticGet c.family a.name, a.response) := by
    rw [inquiry, List.zip_map_left, hpairs, List.map_map]
    rfl
  rw [Request.collectionNotices, Request.answersOf_eq_zip hresponses,
    replyNotices_of_responses hresponses, hcommands, hpairs, Account.reported,
    ← Account.flatMap_ite]
  simp only [answerNotices, List.flatMap_map, Account.responseNotices_eq, Account.notices_eq]

/-- What happened in a collection is reported as it says. -/
theorem notices_collectHappenings
    (h : (c.inquiry (Request.planned before)).Concludes w s asked p s') :
    Event.notices (Happening.events (c.collectHappenings before asked p.taken)) =
      Request.collectionNotices c.url (c.inquiry (Request.planned before)).commands
        (Request.planned before) p.taken := by
  have hasked : ∀ commands : List Command, Event.notices (commands.map .asked) = [] :=
    fun commands => by simp [Event.notices, List.filterMap_map]
  rw [collectHappenings, Happening.notices_append, Happening.notices_noted, h.events_eq, hasked,
    List.nil_append]

/-- Requests and responses have their accounts. -/
theorem exists_accounts (h : (c.inquiry (Request.planned before)).Concludes w s asked p s')
    {responses : List Response}
    (hlength : p.taken.length = (c.inquiry (Request.planned before)).commands.length)
    (hresponses : p.taken.map (Reply.response c.url) = responses.map .ok) :
    ∃ accounts, c.Accounted before asked (collectedOf ((Request.planned before).zip responses))
        accounts ∧
      (Request.planned before).zip responses = accounts.map fun a => (a.request, a.response) := by
  have hcount := length_responses hlength hresponses
  have hpairs : (Request.planned before).zip responses =
      ((before.statistics.zip responses).map fun x => Account.of x.1 x.2).map
        fun a => (a.request, a.response) := by
    rw [Request.planned_eq, List.zip_map_left, List.map_map]
    rfl
  refine ⟨_, ⟨?_, ?_, ?_⟩, hpairs⟩
  · rw [List.map_map]
    exact List.map_fst_zip hcount.ge
  · intro place a ha
    rw [List.getElem?_map, Option.map_eq_some_iff] at ha
    obtain ⟨⟨x, response⟩, hzip, rfl⟩ := ha
    obtain ⟨hx, hresponse⟩ := List.getElem?_zip_eq_some.1 hzip
    exact exists_answered h hresponses hx hresponse
  · rw [hpairs, collectedOf, List.flatMap_map]
    exact List.flatMap_congr fun a _ => a.collected_eq

/-- **No gap is silent**: when the statistics of a snapshot are collected, with
whatever agent, metrics and notices balance the samples that came and the
statistics that were planned. -/
theorem collect_balanced
    (h : Completes w sink (c.collect before .done) s t trace (.ok collected) s' t') :
    ∃ accounts, c.Accounted before trace collected accounts ∧
      c.Balanced before (Event.notices (Happening.events trace)) collected accounts := by
  obtain ⟨asked, p, s₁, _, hq, rfl, hdone⟩ := completes_collect.1 h
  obtain ⟨rfl, hcollected, rfl, rfl⟩ := Dialogue.completes_done.1 hdone
  rw [List.append_nil, notices_collectHappenings hq]
  -- every reply was taken up and holds a response, or the result would be a failure
  rcases hq.taken_cases with ⟨hlength, hgood⟩ | ⟨good, bad, htaken, hgood, hbad⟩
  · obtain ⟨responses, hresponses⟩ := exists_responses hgood
    obtain ⟨accounts, haccounted, hpairs⟩ := exists_accounts hq hlength hresponses
    obtain rfl : collected = collectedOf ((Request.planned before).zip responses) := by
      rw [Request.collectedFrom, Request.answersOf_eq_zip hresponses] at hcollected
      exact Except.ok.inj hcollected
    rw [collectionNotices_eq hresponses hpairs]
    refine ⟨accounts, ⟨haccounted.planned, ?_, haccounted.collected_eq⟩, ?_⟩
    · intro place a ha
      obtain ⟨reply, hanswered, hresponse⟩ := haccounted.answered place a ha
      exact ⟨reply, Inquiry.answered_append.2 (.inl hanswered), hresponse⟩
    · rw [haccounted.collected_eq]
      refine ⟨Account.length_samples_eq, ?_, Account.filter_isUnfulfilled_reported,
        Account.filter_isEmptyStatistic_reported, Account.filter_isMalformedSample_reported⟩
      rw [← haccounted.planned, List.length_map]
      exact Account.length_eq
  · obtain ⟨e, he⟩ := isFailure_eq_true_iff.1 hbad
    rw [(collectedFrom_eq_error hq htaken hgood he).1] at hcollected
    exact absurd hcollected (by simp)

namespace MixedAnswers

def collector : Collector := ⟨"http://192.0.2.1/", .v4, .wholeCycle, 2⟩

def snapshot : Snapshot := ⟨.v4, [⟨7, ⟨.ofNat .v4 0xC0000200, 26, by decide⟩, []⟩], none⟩

/-- One sample of two is malformed, the second statistic is refused, and both
samples of the third are malformed. -/
def replies : List Reply :=
  let total := Fixture.statisticAnswer "subnet[7].total-addresses"
    [(3, "yesterday"), (256, "2024-05-01 10:00:00.000001")]
  let declined := Fixture.statisticAnswer "subnet[7].declined-addresses"
    [(1, "yesterday"), (2, "tomorrow")]
  [some total.text, some (Fixture.refusal 3 "no data").text, some declined.text]

/-- What is reported. -/
def messages : List String :=
  ["Kea at http://192.0.2.1/ did not fulfil 'statistic-get' (result 3): no data",
    "Ignoring malformed sample [3,\"yesterday\"] of statistic 'subnet[7].total-addresses'",
    "Ignoring malformed sample [1,\"yesterday\"] of statistic 'subnet[7].declined-addresses'",
    "Ignoring malformed sample [2,\"tomorrow\"] of statistic 'subnet[7].declined-addresses'",
    "Could not fetch metric 'declined' for subnet 192.0.2.0/26 from http://192.0.2.1/: " ++
      "'subnet[7].declined-addresses' is empty"]

def course : Course (Except Kea.Error (List Collected)) Nat (List Metric) :=
  (collector.collect snapshot .done).run (Agent.inTurn replies) Sink.memory 0 []

theorem course_eq :
    course.agent = 3 ∧ course.sink = [] ∧
      (course.result.toOption.map fun collected =>
        collected.map fun x => (x.id, x.metric.key, x.metric.value)) = some [(7, .total, 256)] ∧
      (Event.notices course.events).map Notice.message = messages := by
  decide +kernel

end MixedAnswers

open MixedAnswers in
/-- Of four samples one is a metric and three are reported, and of three
statistics one is fruitful, one refused and one empty. -/
theorem collect_balanced_mixed_answers :
    ∃ trace collected,
      Completes (Agent.inTurn replies).world Sink.memory (collector.collect snapshot .done) 0 []
        trace (.ok collected) 3 [] ∧
      (collected.map fun x => (x.id, x.metric.key, x.metric.value)) = [(7, .total, 256)] ∧
      (Event.notices (Happening.events trace)).map Notice.message = messages ∧
      ∃ accounts, collector.Accounted snapshot trace collected accounts ∧
        collector.Balanced snapshot (Event.notices (Happening.events trace)) collected
          accounts := by
  obtain ⟨hagent, hsink, hresult, hmessages⟩ := course_eq
  obtain ⟨trace, h, hevents⟩ := Dialogue.run_completes (Agent.inTurn replies) Sink.memory
    (collector.collect snapshot .done) 0 []
  change Completes _ _ _ _ _ _ course.result course.agent course.sink at h
  change Happening.events trace = course.events at hevents
  rw [hagent, hsink] at h
  rw [← hevents] at hmessages
  cases hcollected : course.result with
  | error e =>
    rw [hcollected] at hresult
    exact absurd hresult (by simp [Except.toOption])
  | ok collected =>
    rw [hcollected] at h hresult
    exact ⟨trace, collected, h, by simpa [Except.toOption] using hresult, hmessages,
      collect_balanced h⟩

end Collector

end KeaGauge
