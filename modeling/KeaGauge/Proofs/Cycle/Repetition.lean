import KeaGauge.Proofs.Cycle.Discipline
import KeaGauge.Proofs.Kea.Discovery
import Mathlib.Data.List.Nodup
/-!
# Ids that are listed once

Nothing in the reading of a configuration keeps two of its entries from
naming one id. The ids of a snapshot are pairwise distinct exactly when no two
entries do so (`nodup_ids_iff`), and then, and only then, each statistic is
asked for once (`Request.nodup_statistics_iff`). A sample that is reported
once then makes one metric at most, under one prefix (`cycle_hands_once`).
With an id that is listed twice, a sample is handed over under both prefixes
(`Repeated.cycle_hands_twice`).
-/

namespace KeaGauge

open Kea (Snapshot Subnet Sampled statisticName)
open Dialogue (Completes)
open Scripted

/-! ## Ids -/

namespace Kea

open Json (Value)
open Net (Family)

/-- **No two entries name one id.** -/
def NamedApart (family : Family) (entries : List Value) : Prop :=
  entries.Pairwise fun entry other =>
    ∀ id cidr cidr', Names family entry id cidr → ¬ Names family other id cidr'

section Ids

variable {family : Family} {entry : Value} {entries : List Value} {subnets : List Subnet}
variable {notices : List Notice}

/-- The ids that an entry brings are those that it names, and this is one at
most. -/
theorem Treats.ids (h : Treats family entry subnets notices) :
    (∀ id, id ∈ subnets.map (·.id) ↔ ∃ cidr, Names family entry id cidr) ∧
      (subnets.map (·.id)).Nodup := by
  cases h with
  | @kept id cidr _ _ _ names _ _ =>
    refine ⟨fun other => ?_, List.nodup_singleton _⟩
    rw [List.map_singleton, List.mem_singleton]
    constructor
    · rintro rfl
      exact ⟨cidr, names⟩
    · rintro ⟨_, others⟩
      have hsame := Value.int.inj (Option.some.inj (others.hasId.symm.trans names.hasId))
      exact Int.ofNat_inj.1 hsame
  | leftOut unnamed _ =>
    refine ⟨fun id => ?_, List.nodup_nil⟩
    simp [unnamed]

theorem mem_ids_iff (h : Gathers (Treats family) entries subnets notices) (id : Nat) :
    id ∈ subnets.map (·.id) ↔ ∃ entry ∈ entries, ∃ cidr, Names family entry id cidr := by
  induction h with
  | nil => simp
  | cons here _ ih => simp only [List.map_append, List.mem_append, here.ids.1, ih,
      List.mem_cons, exists_eq_or_imp]

/-- **The ids of a snapshot are pairwise distinct** exactly when no two entries
name one id. -/
theorem nodup_ids_iff (h : Gathers (Treats family) entries subnets notices) :
    (subnets.map (·.id)).Nodup ↔ NamedApart family entries := by
  induction h with
  | nil => simp [NamedApart]
  | @cons entry entries share results _ _ here rest ih =>
    have hapart : (∀ a ∈ share.map (·.id), ∀ b ∈ results.map (·.id), a ≠ b) ↔
        ∀ other ∈ entries, ∀ id cidr cidr', Names family entry id cidr →
          ¬ Names family other id cidr' := by
      simp only [here.ids.1, mem_ids_iff rest]
      constructor
      · intro hne other hother id cidr cidr' names names'
        exact hne id ⟨cidr, names⟩ id ⟨other, hother, cidr', names'⟩ rfl
      · rintro hne id ⟨cidr, names⟩ _ ⟨other, hother, cidr', names'⟩ rfl
        exact hne other hother id cidr cidr' names names'
    rw [NamedApart, List.pairwise_cons, ← NamedApart, ← ih, List.map_append, List.nodup_append,
      hapart]
    exact ⟨fun ⟨_, hresults, hne⟩ => ⟨hne, hresults⟩, fun ⟨hne, hresults⟩ =>
      ⟨here.ids.2, hresults, hne⟩⟩

end Ids

end Kea

/-! ## Requests -/

namespace Request

/-- **Each statistic is asked for once** exactly when no id is listed
twice. -/
theorem nodup_statistics_iff (s : Snapshot) :
    ((planned s).map (·.statistic)).Nodup ↔ (s.subnets.map (·.id)).Nodup := by
  have hofSubnet : ∀ subnet : Subnet, (ofSubnet subnet).map (·.statistic) =
      Kea.tracked.map fun x => statisticName subnet.id x.1 := fun subnet => by
    rw [ofSubnet, List.map_map]
    rfl
  have hone : ∀ subnet : Subnet, ((ofSubnet subnet).map (·.statistic)).Nodup := fun subnet => by
    have hnames : (Kea.tracked.map Prod.fst).Nodup := by decide
    rw [hofSubnet]
    exact (List.pairwise_map.1 hnames).map _ fun _ _ hne hsame =>
      hne (Kea.statisticName_inj hsame).2
  have hapart : ∀ subnet other : Subnet,
      ((ofSubnet subnet).map (·.statistic)).Disjoint ((ofSubnet other).map (·.statistic)) ↔
        subnet.id ≠ other.id := fun subnet other => by
    rw [hofSubnet, hofSubnet]
    constructor
    · intro hdisjoint hid
      rw [hid] at hdisjoint
      exact hdisjoint (List.mem_cons_self) (List.mem_cons_self)
    · intro hne name hname hother
      obtain ⟨_, -, rfl⟩ := List.mem_map.1 hname
      obtain ⟨_, -, hsame⟩ := List.mem_map.1 hother
      exact hne (Kea.statisticName_inj hsame).1.symm
  have hids : (s.subnets.map (·.id)).Nodup ↔
      s.subnets.Pairwise fun subnet other => subnet.id ≠ other.id := List.pairwise_map
  rw [planned, List.map_flatMap, List.nodup_flatMap, hids]
  exact (and_iff_right fun subnet _ => hone subnet).trans (List.Pairwise.iff hapart)

end Request

/-! ## Samples -/

/-- Where a sample is reported: in the series of a statistic, at a place of
it. -/
structure Source where
  statistic : String
  place : Nat
deriving DecidableEq

namespace Request

variable {r : Request} {response : Kea.Response} {x : Source × Collected}

/-- The metrics that a response has for a request, each with the sample that
it is of. -/
def sourced (r : Request) (response : Kea.Response) : List (Source × Collected) :=
  if response.isSuccess then
    (Kea.samplesAt response.arguments r.statistic).zipIdx.filterMap fun (v, place) =>
      (Kea.Point.ofSample? v).map fun p => (⟨r.statistic, place⟩, r.collect p)
  else []

/-- They are the metrics that are collected. -/
theorem map_snd_sourced (r : Request) (response : Kea.Response) :
    (r.sourced response).map Prod.snd = r.collected response := by
  unfold sourced collected points
  split
  · rw [Kea.pointsAt, List.map_filterMap, List.map_filterMap]
    conv_rhs => rw [← List.zipIdx_map_fst 0 (Kea.samplesAt response.arguments r.statistic)]
    rw [List.filterMap_map]
    refine List.filterMap_congr fun x _ => ?_
    rw [Option.map_map]
    rfl
  · rfl

/-- No sample makes two metrics of one answer. -/
theorem nodup_sourced (r : Request) (response : Kea.Response) :
    ((r.sourced response).map Prod.fst).Nodup := by
  unfold sourced
  split
  · have hplaces :
        ((Kea.samplesAt response.arguments r.statistic).zipIdx.map Prod.snd).Nodup := by
      rw [List.zipIdx_map_snd]
      exact List.nodup_range'
    rw [List.Nodup, List.pairwise_map] at hplaces
    rw [List.Nodup, List.pairwise_map, List.pairwise_filterMap]
    refine hplaces.imp fun hne a ha b hb hsame => hne ?_
    obtain ⟨_, -, rfl⟩ := Option.map_eq_some_iff.1 ha
    obtain ⟨_, -, rfl⟩ := Option.map_eq_some_iff.1 hb
    exact congrArg Source.place hsame
  · exact List.nodup_nil

/-- **A metric is of the sample** that stands at its place in the series asked
for. -/
theorem origin_of_mem_sourced (hx : x ∈ r.sourced response) :
    x.1.statistic = r.statistic ∧ response.result = 0 ∧ ∃ samples v,
      response.arguments.get? r.statistic = some (.list samples) ∧
      samples[x.1.place]? = some v ∧ Sampled v ⟨x.2.metric.instant, x.2.metric.value⟩ := by
  unfold sourced at hx
  split at hx
  · next success =>
    obtain ⟨⟨v, place⟩, hmem, hmap⟩ := List.mem_filterMap.1 hx
    obtain ⟨p, hpoint, rfl⟩ := Option.map_eq_some_iff.1 hmap
    have hplace := List.mem_zipIdx_iff_getElem?.1 hmem
    rcases Kea.samplesAt_cases response.arguments r.statistic with
      ⟨samples, found, hsamples⟩ | ⟨-, hsamples⟩
    · rw [hsamples] at hplace
      exact ⟨rfl, isSuccess_iff.1 success, samples, v, found, hplace, Kea.sampled_iff.2 hpoint⟩
    · rw [hsamples] at hplace
      exact absurd hplace (by simp)
  · exact absurd hx List.not_mem_nil

end Request

/-- The metrics of all answers, each with the sample that it is of. -/
def sourcedOf (answers : List Answer) : List (Source × Collected) :=
  answers.flatMap fun (r, response) => r.sourced response

theorem map_snd_sourcedOf (answers : List Answer) :
    (sourcedOf answers).map Prod.snd = collectedOf answers := by
  rw [sourcedOf, List.map_flatMap, collectedOf]
  exact congrArg (answers.flatMap ·) (funext fun x => Request.map_snd_sourced x.1 x.2)

/-- **When no statistic was asked for twice, no sample makes two metrics.** -/
theorem nodup_sourcedOf {answers : List Answer}
    (h : (answers.map fun x => x.1.statistic).Nodup) :
    ((sourcedOf answers).map Prod.fst).Nodup := by
  rw [List.Nodup, List.pairwise_map] at h
  rw [sourcedOf, List.map_flatMap, List.nodup_flatMap]
  refine ⟨fun x _ => Request.nodup_sourced x.1 x.2, h.imp fun hne source hsource hother => hne ?_⟩
  obtain ⟨_, hx, rfl⟩ := List.mem_map.1 hsource
  obtain ⟨_, hy, hsame⟩ := List.mem_map.1 hother
  rw [← (Request.origin_of_mem_sourced hx).1, ← (Request.origin_of_mem_sourced hy).1, hsame]

/-- The answers are to requests in their order, each read off the reply to its
own request. -/
theorem Request.origin_of_answersOf {url : String} {requests : List Request}
    {replies : List Reply} {answers : List Answer}
    (h : answersOf url requests replies = .ok answers) :
    (answers.map Prod.fst).Sublist requests ∧ ∀ x ∈ answers, ∃ reply,
      (x.1, reply) ∈ requests.zip replies ∧ reply.response url = .ok x.2 := by
  induction requests generalizing replies answers with
  | nil =>
    obtain rfl := Except.ok.inj h
    exact ⟨List.Sublist.refl _, nofun⟩
  | cons request requests ih =>
    cases replies with
    | nil =>
      obtain rfl := Except.ok.inj h
      exact ⟨List.nil_sublist _, nofun⟩
    | cons reply replies =>
      rw [answersOf_cons] at h
      cases hresponse : reply.response url with
      | error e => simp [hresponse, Except.bind] at h
      | ok response =>
        rw [hresponse] at h
        cases hrest : answersOf url requests replies with
        | error e => simp [hrest, Except.bind, Except.map] at h
        | ok rest =>
          rw [hrest] at h
          obtain rfl := Except.ok.inj h
          obtain ⟨hsublist, horigin⟩ := ih hrest
          refine ⟨hsublist.cons_cons _, fun x hx => ?_⟩
          rcases List.mem_cons.1 hx with rfl | hx
          · exact ⟨reply, List.mem_cons_self, hresponse⟩
          · obtain ⟨taken, hmem, htaken⟩ := horigin x hx
            exact ⟨taken, List.mem_cons_of_mem _ hmem, htaken⟩

/-! ## Cycles -/

/-- What is taken up is seen in the trace. -/
theorem Happening.mem_takings {σ : Type} {trace : List (Happening σ)} {command : Kea.Command}
    {reply : Reply} : (command, reply) ∈ takings trace ↔ .taken command reply ∈ trace := by
  rw [takings, List.mem_filterMap]
  constructor
  · rintro ⟨happening, hmem, hpair⟩
    cases happening <;> simp_all
  · exact fun hmem => ⟨_, hmem, rfl⟩

namespace Collector

variable {σ τ : Type} {w : World σ} {sink : Sink τ} {c : Collector} {s s' : σ} {t t' : τ}
variable {trace rest : List (Happening σ)} {outcome : Outcome} {before : Snapshot}

/-- **A metric is of a sample that was reported**: in the reply taken up to the
request for this statistic, at this place of its series. -/
def Reported (c : Collector) (trace : List (Happening σ)) (source : Source) (m : Metric) : Prop :=
  ∃ reply response samples v, .taken (.statisticGet c.family source.statistic) reply ∈ trace ∧
    reply.response c.url = .ok response ∧ response.result = 0 ∧
    response.arguments.get? source.statistic = some (.list samples) ∧
    samples[source.place]? = some v ∧ Sampled v ⟨m.instant, m.value⟩

/-- What an ending hands over was collected. -/
theorem batches_of_ending {reading : Except Kea.Error Reading} {collected : List Collected}
    (h : c.Ending before collected sink t reading rest outcome t') :
    ∃ kept : List Collected, kept.Sublist collected ∧
      (Event.batches (Happening.calls rest)).flatten = kept.map (·.metric) := by
  have hkept : ∀ drift, ∃ kept : List Collected, kept.Sublist collected ∧
      c.policy.kept drift collected = kept.map (·.metric) := by
    intro drift
    cases c.policy with
    | wholeCycle => exact ⟨[], List.nil_sublist _, rfl⟩
    | affectedSubnets => exact ⟨_, List.filter_sublist, rfl⟩
  cases h with
  | unread e => exact ⟨[], List.nil_sublist _, rfl⟩
  | refused result text => exact ⟨[], List.nil_sublist _, rfl⟩
  | noSubnets _ => exact ⟨[], List.nil_sublist _, rfl⟩
  | @consistent _ batch _ _ _ all _ =>
    refine ⟨collected, List.Sublist.refl _, ?_⟩
    change (Event.batches (Happening.calls (_ ++ _))).flatten = _
    rw [calls_handed_noted, flatten_batches_handed, all]
  | @consistentLost _ batch _ _ _ _ all _ =>
    exact ⟨collected, List.Sublist.refl _, (flatten_batches_handed batch).trans all⟩
  | @drifted _ drift batch _ _ _ kept _ =>
    -- which part is kept depends on the policy
    obtain ⟨left, hleft, hmetrics⟩ := hkept drift
    refine ⟨left, hleft, ?_⟩
    change (Event.batches (Happening.calls (_ ++ _))).flatten = _
    rw [calls_handed_noted, flatten_batches_handed, kept, hmetrics]
  | @driftedLost _ drift batch _ _ _ _ kept _ =>
    obtain ⟨left, hleft, hmetrics⟩ := hkept drift
    exact ⟨left, hleft, (flatten_batches_handed batch).trans (kept.trans hmetrics)⟩

/-- What is handed over when everything was collected are metrics of the
answers, each with the sample that it is of. -/
theorem sourced_of_ending {reading : Except Kea.Error Reading} {collected : List Collected}
    {requests : List Request} {replies : List Reply}
    (collects : Request.collectedFrom c.url requests replies = .ok collected)
    (ends : c.Ending before collected sink t reading rest outcome t') :
    ∃ (answers : List Answer) (handed : List (Source × Collected)),
      answersOf c.url requests replies = .ok answers ∧
      handed.Sublist (sourcedOf answers) ∧
      (Event.batches (Happening.calls rest)).flatten = handed.map (·.2.metric) := by
  obtain ⟨kept, hkept, hbatches⟩ := batches_of_ending ends
  cases hanswers : answersOf c.url requests replies with
  | error e => simp [Request.collectedFrom, hanswers, Except.map] at collects
  | ok answers =>
    rw [Request.collectedFrom, hanswers] at collects
    obtain rfl := Except.ok.inj collects
    rw [← map_snd_sourcedOf] at hkept
    obtain ⟨handed, hhanded, rfl⟩ := List.sublist_map_iff.1 hkept
    exact ⟨answers, handed, rfl, hhanded, by rw [hbatches, List.map_map]; rfl⟩

/-- A metric of the answers is of a sample in the reply to its own request. -/
theorem reported_of_mem_sourcedOf {asked : List (Happening σ)} {p : Inquiry.Progress}
    (inquired : (c.inquiry (Request.planned before)).Concludes w s asked p s')
    {answers : List Answer}
    (hanswers : answersOf c.url (Request.planned before) p.taken = .ok answers)
    {x : Source × Collected} (hx : x ∈ sourcedOf answers) :
    c.Reported asked x.1 x.2.metric := by
  obtain ⟨⟨r, response⟩, hanswer, hsourced⟩ := List.mem_flatMap.1 hx
  obtain ⟨reply, hzip, hresponse⟩ := (Request.origin_of_answersOf hanswers).2 _ hanswer
  obtain ⟨hsame, success, samples, v, hseries, hplace, hsampled⟩ :=
    Request.origin_of_mem_sourced hsourced
  have htaken : .taken (.statisticGet c.family x.1.statistic) reply ∈ asked := by
    rw [← Happening.mem_takings, inquired.takings_eq, hsame, inquiry, List.zip_map_left]
    exact List.mem_map_of_mem hzip
  exact ⟨reply, response, samples, v, htaken, hresponse, success, hsame ▸ hseries, hplace,
    hsampled⟩

/-- **No sample is handed over twice** when the first reading lists no id
twice. -/
theorem handed_of_nodup (h : Completes w sink c.cycle s t trace outcome s' t')
    (found : (c.findings trace).before? = some before)
    (hids : (before.subnets.map (·.id)).Nodup) :
    ∃ handed : List (Source × Collected),
      (Event.batches (Happening.events trace)).flatten = handed.map (·.2.metric) ∧
      (handed.map (·.1)).Nodup ∧ ∀ x ∈ handed, c.Reported trace x.1 x.2.metric := by
  rw [← Event.batches_calls, ← Happening.calls]
  cases unfolds_of_completes h with
  | unopened _ _ =>
    refine ⟨[], ?_, List.nodup_nil, fun _ hx => absurd hx List.not_mem_nil⟩
    rw [calls_readHappenings]
    rfl
  | uncollected _ _ inquired _ =>
    refine ⟨[], ?_, List.nodup_nil, fun _ hx => absurd hx List.not_mem_nil⟩
    rw [calls_uncollected _ _ inquired]
    exact congrArg List.flatten (Event.batches_asked _)
  | @concluded first second s₁ s₂ _ listed asked rest p collected _ _ _ opens inquired collects
      _ ends =>
    obtain rfl : listed = before := by
      rw [findings_concluded opens inquired collects ends] at found
      exact Option.some.inj found
    obtain ⟨answers, handed, hanswers, hhanded, hbatches⟩ := sourced_of_ending collects ends
    -- the answers are to planned requests, and no two of these ask for one statistic
    have hstatistics : (answers.map fun x => x.1.statistic).Nodup := by
      have hsublist := (Request.origin_of_answersOf hanswers).1.map (·.statistic)
      rw [List.map_map] at hsublist
      exact hsublist.nodup ((Request.nodup_statistics_iff listed).2 hids)
    refine ⟨handed, ?_, (hhanded.map Prod.fst).nodup (nodup_sourcedOf hstatistics),
      fun x hx => ?_⟩
    · rw [calls_concluded _ _ _ _ _ inquired collects, ← hbatches]
      change (Event.batches (_ ++ _)).flatten = _
      rw [Event.batches_append, Event.batches_asked]
      rfl
    · obtain ⟨reply, response, samples, v, htaken, hreported⟩ :=
        reported_of_mem_sourcedOf inquired hanswers (hhanded.subset hx)
      exact ⟨reply, response, samples, v, by simp [collectHappenings, htaken], hreported⟩

/-- **Each sample is handed over once** by a cycle whose first reading has no
two entries that name one id. The ids of the snapshot are pairwise distinct,
and each statistic is planned to be asked for once, exactly when this is so. -/
theorem cycle_hands_once {o : Json.Object} {before : Snapshot} {notices : List Notice}
    (accepts : Snapshot.ofObject o = .ok (before, notices)) :
    ∃ content entries, Kea.Sectioned o before.family content ∧
      Kea.Enumerates before.family content entries ∧
      ((before.subnets.map (·.id)).Nodup ↔ Kea.NamedApart before.family entries) ∧
      (((Request.planned before).map (·.statistic)).Nodup ↔
        Kea.NamedApart before.family entries) ∧
      (Kea.NamedApart before.family entries →
        ∀ {σ τ : Type} {w : World σ} {sink : Sink τ} {c : Collector} {s s' : σ} {t t' : τ}
          {trace : List (Happening σ)} {outcome : Outcome},
          Completes w sink c.cycle s t trace outcome s' t' →
          (c.findings trace).before? = some before →
          ∃ handed : List (Source × Collected),
            (Event.batches (Happening.events trace)).flatten = handed.map (·.2.metric) ∧
            (handed.map (·.1)).Nodup ∧ ∀ x ∈ handed, c.Reported trace x.1 x.2.metric) := by
  obtain ⟨content, entries, sectioned, enumerates, gathers, -⟩ :=
    Snapshot.ofObject_discovers accepts
  have hids := Kea.nodup_ids_iff gathers
  exact ⟨content, entries, sectioned, enumerates, hids,
    (Request.nodup_statistics_iff before).trans hids,
    fun hapart => fun h found => handed_of_nodup h found (hids.2 hapart)⟩

end Collector

/-! ## Subnets beside a shared network -/

namespace Collector.SharedNetwork

/-- A collector that discards whole cycles. -/
def collector : Collector := ⟨"http://192.0.2.1/", .v4, .wholeCycle, 2⟩

/-- The document that lists two subnets, the second one in a shared network. -/
def document : Json.Object :=
  [("Dhcp4", .object [
    ("shared-networks", .list [.object [("name", .string "shared-0"),
      ("subnet4", .list [Fixture.subnet 3 "198.51.100.0/27"])]]),
    ("subnet4", .list [Fixture.subnet 7 "203.0.113.0/26"])])]

/-- What it is read as. -/
def before : Snapshot :=
  ⟨.v4, [⟨7, ⟨.ofNat .v4 0xCB007100, 26, by decide⟩, []⟩,
    ⟨3, ⟨.ofNat .v4 0xC6336400, 27, by decide⟩, []⟩], none⟩

/-- The reply to `config-get`. -/
def config : Reply := some (Fixture.configAnswer (.object document)).text

/-- The reply for a total that was sampled twice in the same way. -/
def total (id : Nat) : Reply :=
  some (Fixture.statisticAnswer (Kea.statisticName id "total-addresses")
    [(126, "2024-05-01 10:00:00"), (126, "2024-05-01 10:00:00")]).text

/-- The reply for what the agent has no data of. -/
def nothing : Reply := some (Fixture.refusal 3 "no data").text

/-- All replies of the cycle. -/
def replies : List Reply :=
  [config, total 7, nothing, nothing, total 3, nothing, nothing, config]

/-- The course of the cycle. -/
def course : Course Outcome Nat (List Metric) :=
  collector.cycle.run (Agent.inTurn replies) Sink.memory 0 []

theorem ofObject_document : Snapshot.ofObject document = .ok (before, []) := rfl

theorem length_batches : (Event.batches course.events).flatten.length = 4 := by
  decide +kernel

/-- However the cycle goes, its first reading is this one. -/
theorem before?_eq_before {trace : List (Happening Nat)} {outcome : Outcome} {n : Nat}
    {held : List Metric}
    (h : collector.Unfolds (Agent.inTurn replies).world Sink.memory 0 [] trace outcome n held) :
    (collector.findings trace).before? = some before := by
  have hreading : collector.reading config = .ok (.snapshot before) :=
    handedOut?_eq_some_iff.1 (by decide +kernel)
  have hopens : ∀ {reply : Reply} {n : Nat},
      (Agent.inTurn replies).world 0 (.configGet collector.family) reply n →
        opening (collector.reading reply) = .ok before := fun hanswers => by
    obtain ⟨rfl, -⟩ := Prod.mk.inj hanswers
    exact opening_eq_ok_iff.2 ⟨hreading, rfl⟩
  cases h with
  | unopened answers fails =>
    rw [hopens answers] at fails
    exact absurd fails (by simp)
  | uncollected answers _ _ _ => exact before?_eq (hopens answers)
  | concluded answers _ _ _ _ _ => exact before?_eq (hopens answers)

end Collector.SharedNetwork

namespace Collector

open SharedNetwork in
/-- A subnet of its own and one in a shared network have different ids. For each
of them two samples are reported that look the same, and each sample is handed
over once. -/
theorem cycle_hands_once_shared_network :
    before.subnets.map (·.id) = [7, 3] ∧
      ∃ content entries, Kea.Sectioned document .v4 content ∧
        Kea.Enumerates .v4 content entries ∧ Kea.NamedApart .v4 entries ∧
        ∃ (trace : List (Happening Nat)) (handed : List (Source × Collected)),
          Completes (Agent.inTurn replies).world Sink.memory collector.cycle 0 [] trace
            course.result course.agent course.sink ∧
          (Event.batches (Happening.events trace)).flatten = handed.map (·.2.metric) ∧
          (handed.map (·.1)).Nodup ∧ (∀ x ∈ handed, collector.Reported trace x.1 x.2.metric) ∧
          handed.length = 4 := by
  obtain ⟨content, entries, sectioned, enumerates, hids, -, honce⟩ :=
    cycle_hands_once ofObject_document
  have hapart := hids.1 (by decide : (before.subnets.map (·.id)).Nodup)
  obtain ⟨trace, h, hevents⟩ := Dialogue.run_completes (Agent.inTurn replies) Sink.memory
    collector.cycle 0 []
  change Completes _ _ _ _ _ _ course.result course.agent course.sink at h
  obtain ⟨handed, hbatches, hnodup, hreported⟩ :=
    honce hapart h (before?_eq_before (unfolds_of_completes h))
  have hlength : handed.length = 4 := by
    rw [← List.length_map (·.2.metric), ← hbatches, hevents]
    exact length_batches
  exact ⟨rfl, content, entries, sectioned, enumerates, hapart, trace, handed, h, hbatches, hnodup,
    hreported, hlength⟩

end Collector

/-! ## An id that is listed twice -/

namespace Collector.Repeated

/-- Two subnets of one id. -/
def document : Json.Object :=
  [("Dhcp4", .object [("subnet4", .list
    [.object [("id", .int 1), ("subnet", .string "192.0.2.0/24")],
      .object [("id", .int 1), ("subnet", .string "10.0.0.0/8")]])])]

/-- An agent with this configuration throughout, and with one sample, whatever
statistic it is asked for. -/
def agent : Agent Unit := fun _ command =>
  let answer :=
    if command.name = "config-get" then Fixture.configAnswer (.object document)
    else Fixture.statisticAnswer "subnet[1].total-addresses" [(256, "2024-05-01 10:00:00.000001")]
  (some answer.text, ())

/-- **Ids may repeat.** The configuration is accepted, each statistic of the id
is planned twice, and the one sample there is goes to the sink under both
prefixes. -/
theorem cycle_hands_twice :
    (∃ s notices, Snapshot.ofObject document = .ok (s, notices) ∧
      s.subnets.map (·.id) = [1, 1] ∧ ¬ (s.subnets.map (·.id)).Nodup ∧
      ¬ ((Request.planned s).map (·.statistic)).Nodup) ∧
    let c : Collector := ⟨"http://192.0.2.1/", .v4, .wholeCycle, 1⟩
    let course := c.cycle.run agent Sink.memory () []
    (course.sink.map fun m => (m.cidr.text, m.key, m.value, m.instant.epoch)) =
      [("192.0.2.0/24", .total, 256, 1714557600), ("10.0.0.0/8", .total, 256, 1714557600)] := by
  refine ⟨⟨_, _, rfl, rfl, by decide, by decide +kernel⟩, ?_⟩
  decide +kernel

end Collector.Repeated

end KeaGauge
