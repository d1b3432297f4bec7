import KeaGauge.Proofs.Cycle.Attribution
/-!
# The order of a cycle

A cycle asks for the configuration, then for each statistic of each subnet,
then for the configuration again, and hands over one batch at most. Whatever
goes wrong, it only stops earlier: what it asks and hands over is the start
of this sequence (`Collector.plannedCalls`). A batch is handed over only
after a second reading that can be used, and an outcome that withholds the
metrics leaves the sink alone (`cycle_disciplined`).
-/

namespace KeaGauge

open Kea (Command Snapshot statisticName)
open Dialogue (Completes)

namespace Event

/-- The commands asked and the batches handed over, in this order. -/
def calls (events : List Event) : List Event :=
  events.filter fun
    | asked _ | delivered _ => true
    | noted _ | passed _ => false

theorem calls_append (events more : List Event) :
    calls (events ++ more) = calls events ++ calls more :=
  List.filter_append ..

/-- Commands are calls. -/
theorem calls_asked (commands : List Command) :
    calls (commands.map .asked) = commands.map .asked :=
  List.filter_eq_self.2 (by simp)

theorem calls_noted (notices : List Notice) : calls (notices.map .noted) = [] :=
  List.filter_eq_nil_iff.2 (by simp)

/-- Batches are among the calls. -/
theorem batches_calls (events : List Event) : batches (calls events) = batches events := by
  rw [batches, batches, calls, List.filterMap_filter]
  congr 1
  funext event
  cases event <;> rfl

theorem batches_append (events more : List Event) :
    batches (events ++ more) = batches events ++ batches more :=
  List.filterMap_append

theorem batches_asked (commands : List Command) : batches (commands.map .asked) = [] := by
  rw [batches, List.filterMap_map]
  exact List.filterMap_eq_nil_iff.2 fun _ _ => rfl

theorem batches_delivered (handed : List (List Metric)) :
    batches (handed.map .delivered) = handed := by
  rw [batches, List.filterMap_map]
  exact List.filterMap_some

end Event

/-- **An outcome that withholds the metrics**: an error other than the sink's,
or a report that all of them were discarded. -/
def Outcome.Withholds (policy : DiscardPolicy) : Outcome → Prop
  | .ok (.consistent _) => False
  | .ok (.drifted _ _ _) => policy = .wholeCycle
  | .ok (.unverified _ _ _) => True
  | .error (.sink _) => False
  | .error _ => True

namespace Happening

variable {σ : Type}

/-- What is asked and handed over in a trace. -/
def calls (trace : List (Happening σ)) : List Event := Event.calls (events trace)

theorem calls_append (trace more : List (Happening σ)) :
    calls (trace ++ more) = calls trace ++ calls more := by
  rw [calls, events, List.filterMap_append]
  exact Event.calls_append ..

theorem calls_noted (notices : List Notice) : calls (notices.map (.noted (σ := σ))) = [] := by
  have hevents : events (notices.map (.noted (σ := σ))) = notices.map .noted := by
    rw [events, List.filterMap_map]
    exact congrFun List.filterMap_eq_map notices
  rw [calls, hevents, Event.calls_noted]

end Happening

namespace Collector

variable {σ τ : Type} {w : World σ} {sink : Sink τ} {c : Collector} {s s' : σ} {t t' : τ}
variable {trace rest : List (Happening σ)} {outcome : Outcome} {before : Snapshot}

/-- The requests for every tracked statistic of every subnet, in their
order. -/
def statisticCommands (c : Collector) (before : Snapshot) : List Command :=
  before.statistics.map fun (subnet, statistic, _) =>
    .statisticGet c.family (statisticName subnet.id statistic)

/-- **The whole sequence of a cycle**, given the snapshot of the first reading
and what is handed over at the end. Without a snapshot it ends after the first
reading. -/
def plannedCalls (c : Collector) (before? : Option Snapshot) (handed : List (List Metric)) :
    List Event :=
  .asked (.configGet c.family) ::
    match before? with
    | none => []
    | some before =>
      (c.statisticCommands before).map .asked ++
        .asked (.configGet c.family) :: handed.map .delivered

/-- **A reply to `config-get` can be used**: it is a success that holds a
configuration of the family asked for, which lists a subnet. -/
def Usable (c : Collector) (reply : Reply) : Prop :=
  ∃ response listed notices, reply.response c.url = .ok response ∧ response.result = 0 ∧
    Snapshot.ofObject response.arguments = .ok (listed, notices) ∧
    listed.family = c.family ∧ listed.subnets ≠ []

/-- **A reading brings a snapshot** just when the reply is a success that
holds a configuration of the family asked for. -/
theorem reading_eq_snapshot_iff {reply : Reply} {listed : Snapshot} :
    c.reading reply = .ok (.snapshot listed) ↔
      ∃ response notices, reply.response c.url = .ok response ∧ response.result = 0 ∧
        Snapshot.ofObject response.arguments = .ok (listed, notices) ∧
        listed.family = c.family := by
  rw [reading, Reading.ofReply]
  cases hresponse : reply.response c.url with
  | error e => simp
  | ok response =>
    simp only [Reading.ofResponse, Except.ok.injEq, exists_and_left, exists_eq_left']
    by_cases hsuccess : response.isSuccess = true
    · have hresult := Request.isSuccess_iff.1 hsuccess
      rw [if_pos hsuccess]
      cases hobject : Snapshot.ofObject response.arguments with
      | error fault => simp
      | ok found =>
        obtain ⟨found, notices⟩ := found
        by_cases hfamily : found.family = c.family
        · simp only [if_pos hfamily]
          constructor
          · intro h
            obtain rfl := Reading.snapshot.inj (Except.ok.inj h)
            exact ⟨hresult, notices, rfl, hfamily⟩
          · rintro ⟨-, _, hfound, -⟩
            obtain ⟨rfl, -⟩ := Prod.mk.inj (Except.ok.inj hfound)
            rfl
        · simp only [if_neg hfamily, reduceCtorEq, Except.ok.injEq, Prod.mk.injEq, false_iff]
          rintro ⟨-, _, ⟨rfl, -⟩, h⟩
          exact hfamily h
    · have hresult : response.result ≠ 0 := fun h => hsuccess (Request.isSuccess_iff.2 h)
      simp [hsuccess, hresult]

/-- **A reading is refused** just when the reply holds another result than
success. -/
theorem reading_eq_refused_iff {reply : Reply} {result : Int} {text : String} :
    c.reading reply = .ok (.refused result text) ↔
      ∃ response, reply.response c.url = .ok response ∧ response.result ≠ 0 ∧
        response.result = result ∧ response.text = text := by
  rw [reading, Reading.ofReply]
  cases hresponse : reply.response c.url with
  | error e => simp
  | ok response =>
    simp only [Reading.ofResponse, Except.ok.injEq, exists_eq_left']
    by_cases hsuccess : response.isSuccess = true
    · have hresult := Request.isSuccess_iff.1 hsuccess
      rw [if_pos hsuccess]
      cases Snapshot.ofObject response.arguments with
      | error fault => simp [hresult]
      | ok found =>
        obtain ⟨found, notices⟩ := found
        by_cases hfamily : found.family = c.family <;> simp [hfamily, hresult]
    · have hresult : response.result ≠ 0 := fun h => hsuccess (Request.isSuccess_iff.2 h)
      simp [hsuccess, hresult]

theorem usable_of_reading {reply : Reply} {listed : Snapshot}
    (h : c.reading reply = .ok (.snapshot listed)) (nonempty : listed.isEmpty = false) :
    c.Usable reply := by
  obtain ⟨response, notices, hresponse, hresult, hobject, hfamily⟩ := reading_eq_snapshot_iff.1 h
  exact ⟨response, listed, notices, hresponse, hresult, hobject, hfamily,
    by simpa [Snapshot.isEmpty] using nonempty⟩

/-! ## The calls of each phase -/

theorem commands_inquiry (c : Collector) (before : Snapshot) :
    (c.inquiry (Request.planned before)).commands = c.statisticCommands before := by
  rw [inquiry, Request.planned_eq, List.map_map]
  rfl

theorem calls_readHappenings (reply : Reply) (s : σ) :
    Happening.calls (c.readHappenings reply s) = [.asked (.configGet c.family)] := by
  rw [readHappenings, Happening.calls_append, Happening.calls_noted]
  rfl

theorem calls_collectHappenings {asked : List (Happening σ)} {p : Inquiry.Progress}
    (h : (c.inquiry (Request.planned before)).Concludes w s asked p s') :
    Happening.calls (c.collectHappenings before asked p.taken) =
      ((c.statisticCommands before).take p.replies.length).map .asked := by
  rw [collectHappenings, Happening.calls_append, Happening.calls_noted, List.append_nil,
    Happening.calls, h.events_eq, Event.calls_asked, commands_inquiry]

/-- When everything was collected, every statistic was asked for. -/
theorem length_le_replies {asked : List (Happening σ)} {p : Inquiry.Progress}
    {collected : List Collected}
    (h : (c.inquiry (Request.planned before)).Concludes w s asked p s')
    (collects : Request.collectedFrom c.url (Request.planned before) p.taken = .ok collected) :
    (c.statisticCommands before).length ≤ p.replies.length := by
  have hcame := h.coherent.taken_came.length_le
  rw [List.length_map] at hcame
  rcases h.taken_cases with ⟨hlength, -⟩ | ⟨good, bad, htaken, hgood, hbad⟩
  · rw [commands_inquiry] at hlength
    omega
  · -- a failure taken up would have been the failure of the collection
    obtain ⟨e, he⟩ := isFailure_eq_true_iff.1 hbad
    rw [(collectedFrom_eq_error h htaken hgood he).1] at collects
    exact absurd collects (by simp)

/-- A cycle that ends in its inquiry has asked for the configuration, and then
for some of the statistics. -/
theorem calls_uncollected (first : Reply) (s₁ : σ) {asked : List (Happening σ)}
    {p : Inquiry.Progress}
    (h : (c.inquiry (Request.planned before)).Concludes w s asked p s') :
    Happening.calls (c.readHappenings first s₁ ++ .passed .firstReading ::
        c.collectHappenings before asked p.taken) =
      .asked (.configGet c.family) ::
        ((c.statisticCommands before).take p.replies.length).map .asked := by
  rw [Happening.calls_append, calls_readHappenings]
  exact congrArg _ (calls_collectHappenings h)

/-- A cycle that comes to its second reading has asked for everything. -/
theorem calls_concluded (first second : Reply) (s₁ s₂ : σ) (rest : List (Happening σ))
    {asked : List (Happening σ)} {p : Inquiry.Progress} {collected : List Collected}
    (h : (c.inquiry (Request.planned before)).Concludes w s asked p s')
    (collects : Request.collectedFrom c.url (Request.planned before) p.taken = .ok collected) :
    Happening.calls (c.readHappenings first s₁ ++ .passed .firstReading ::
        (c.collectHappenings before asked p.taken ++ .passed .statistics ::
          (c.readHappenings second s₂ ++ rest))) =
      .asked (.configGet c.family) :: ((c.statisticCommands before).map .asked ++
        .asked (.configGet c.family) :: Happening.calls rest) := by
  have hall : (c.statisticCommands before).take p.replies.length = c.statisticCommands before :=
    List.take_of_length_le (length_le_replies h collects)
  rw [Happening.calls_append, calls_readHappenings]
  change _ ++ Happening.calls (_ ++ _) = _
  rw [Happening.calls_append, calls_collectHappenings h, hall]
  change _ ++ (_ ++ Happening.calls (_ ++ _)) = _
  rw [Happening.calls_append, calls_readHappenings]
  rfl

/-- What is said after a batch is no call. -/
theorem calls_handed_noted (batch : List Metric) (notice : Notice) (stage : Stage) :
    Happening.calls (Happening.handed (σ := σ) batch ++ [.noted notice, .passed stage]) =
      Happening.calls (Happening.handed (σ := σ) batch) := by
  rw [Happening.calls_append]
  exact List.append_nil _

/-- Of a batch that is handed over, if it is not empty, all metrics are. -/
theorem flatten_batches_handed (batch : List Metric) :
    (Event.batches (Happening.calls (Happening.handed (σ := σ) batch))).flatten = batch := by
  cases batch <;> simp [Happening.handed, Happening.calls, Happening.events, Happening.event?,
    Event.calls, Event.batches]

/-- A batch is handed over just when it is not empty. -/
theorem handed_cases {given : List Metric} {verdict : Except SinkError Unit}
    (h : sink.take t given = (verdict, t')) :
    (given = [] ∧ Happening.calls (Happening.handed (σ := σ) given) = [] ∧ verdict = .ok ()) ∨
      (given ≠ [] ∧ Happening.calls (Happening.handed (σ := σ) given) = [.delivered given] ∧
        verdict = (sink t given).1) := by
  unfold Sink.take at h
  unfold Happening.handed
  cases given with
  | nil => exact .inl ⟨rfl, rfl, (Prod.mk.inj h).1.symm⟩
  | cons m more => exact .inr ⟨List.cons_ne_nil m more, rfl, (congrArg Prod.fst h).symm⟩

/-- What an ending says of the sink: it was left alone, or it was handed one
batch, after a second reading that lists a subnet. -/
inductive Dealing (c : Collector) (sink : Sink τ) (t : τ) (reading : Except Kea.Error Reading)
    (outcome : Outcome) : List Event → Prop where
  | none (accepted : ∀ e, outcome ≠ .error (.sink e)) : Dealing c sink t reading outcome []
  | one {after : Snapshot} {batch : List Metric} (read : reading = .ok (.snapshot after))
      (listed : after.isEmpty = false) (nonempty : batch ≠ [])
      (verdict : ∀ e, outcome = .error (.sink e) ↔ (sink t batch).1 = .error e)
      (given : ¬ outcome.Withholds c.policy) :
      Dealing c sink t reading outcome [.delivered batch]

/-- A report after a batch that the sink took. -/
theorem dealing_of_accepted {after : Snapshot} {batch : List Metric} {report : Report}
    (listed : after.isEmpty = false) (accepted : sink.take t batch = (.ok (), t'))
    (given : batch ≠ [] → ¬ Outcome.Withholds c.policy (.ok report)) :
    c.Dealing sink t (.ok (.snapshot after)) (.ok report)
      (Happening.calls (Happening.handed (σ := σ) batch)) := by
  rcases handed_cases (σ := σ) accepted with ⟨-, hcalls, -⟩ | ⟨hne, hcalls, hverdict⟩
  · rw [hcalls]
    exact .none fun e => by simp
  · rw [hcalls]
    exact .one rfl listed hne (by simp [← hverdict]) (given hne)

/-- An error after a batch that the sink refused. -/
theorem dealing_of_lost {after : Snapshot} {batch : List Metric} {e : SinkError}
    (listed : after.isEmpty = false) (lost : sink.take t batch = (.error e, t')) :
    c.Dealing sink t (.ok (.snapshot after)) (.error (.sink e))
      (Happening.calls (Happening.handed (σ := σ) batch)) := by
  rcases handed_cases (σ := σ) lost with ⟨-, -, hverdict⟩ | ⟨hne, hcalls, hverdict⟩
  · exact absurd hverdict (by simp)
  · rw [hcalls]
    exact .one rfl listed hne (by simp [← hverdict]) (by simp [Outcome.Withholds])

theorem dealing_of_ending {reading : Except Kea.Error Reading} {collected : List Collected}
    (h : c.Ending before collected sink t reading rest outcome t') :
    c.Dealing sink t reading outcome (Happening.calls rest) := by
  cases h with
  | unread e => exact .none (by simp)
  | refused result text => exact .none (by simp)
  | noSubnets _ => exact .none (by simp)
  | @consistent after batch _ listed _ _ accepted =>
    change c.Dealing sink t _ _ (Happening.calls (_ ++ _))
    rw [calls_handed_noted]
    exact dealing_of_accepted listed accepted fun _ => by simp [Outcome.Withholds]
  | consistentLost listed _ _ lost => exact dealing_of_lost listed lost
  | @drifted after drift batch _ listed _ kept accepted =>
    change c.Dealing sink t _ _ (Happening.calls (_ ++ _))
    rw [calls_handed_noted]
    -- a policy that discards the whole cycle keeps nothing
    refine dealing_of_accepted listed accepted fun hne hpolicy => hne ?_
    rw [kept, show c.policy = .wholeCycle from hpolicy]
    rfl
  | driftedLost listed _ _ lost => exact dealing_of_lost listed lost

/-! ## The discipline -/

/-- **What the calls of a cycle say**: they are the start of the planned
sequence, with one batch at most, and each request names the one service. -/
structure Ordered (c : Collector) (before? : Option Snapshot) (calls : List Event) : Prop where
  planned : ∃ handed : List (List Metric), handed.length ≤ 1 ∧
    calls <+: c.plannedCalls before? handed
  services : ∀ command ∈ Event.commands calls, command.services = [c.family]

theorem ordered_of_start {before? : Option Snapshot} {calls : List Event}
    (handed : List (List Metric)) (hlength : handed.length ≤ 1)
    (h : calls <+: c.plannedCalls before? handed) : c.Ordered before? calls := by
  refine ⟨⟨handed, hlength, h⟩, fun command hcommand => ?_⟩
  have hplanned : command ∈ Event.commands (c.plannedCalls before? handed) :=
    (h.sublist.filterMap _).subset hcommand
  cases before? with
  | none =>
    obtain rfl : command = .configGet c.family := by
      simpa [plannedCalls, Event.commands] using hplanned
    rfl
  | some before =>
    simp only [plannedCalls, Event.commands, List.filterMap_cons, List.filterMap_append,
      List.filterMap_map, List.mem_cons, List.mem_append] at hplanned
    rcases hplanned with rfl | hstatistic | rfl | hhanded
    · rfl
    · obtain ⟨x, hx, hsome⟩ := List.mem_filterMap.1 hstatistic
      obtain rfl : x = command := by simpa using hsome
      obtain ⟨y, -, rfl⟩ := List.mem_map.1 hx
      rfl
    · rfl
    · exact absurd hhanded (by simp)

/-- The snapshot that a first reading brings is the one found in the
replies. -/
theorem before?_eq {reply : Reply} {s₁ : σ} (opens : opening (c.reading reply) = .ok before) :
    (c.findings (c.readHappenings reply s₁ ++ rest)).before? = some before := by
  simp [findings, Happening.repliesTo_append, repliesTo_readHappenings,
    handedOut?_of_opens opens]

theorem batches_plannedCalls (before : Snapshot) (handed : List (List Metric)) :
    Event.batches (c.plannedCalls (some before) handed) = handed := by
  change Event.batches (_ ++ .asked (.configGet c.family) :: _) = _
  rw [Event.batches_append, Event.batches_asked, List.nil_append]
  exact Event.batches_delivered handed

/-- A batch of a trace is one of those handed over. -/
theorem mem_batches (batch : List Metric) (earlier later : List (Happening σ)) :
    batch ∈ Event.batches (Happening.events (earlier ++ .delivered batch :: later)) := by
  simp [Event.batches, Happening.events, Happening.event?]

/-- **What the batches of a cycle say**, given its outcome. -/
structure Guarded (c : Collector) (sink : Sink τ) (t : τ) (trace : List (Happening σ))
    (outcome : Outcome) : Prop where
  verified : ∀ batch earlier later, trace = earlier ++ .delivered batch :: later → batch ≠ [] ∧
    ∃ reply, (Happening.repliesTo "config-get" earlier)[1]? = some reply ∧ c.Usable reply
  withheld : outcome.Withholds c.policy → Event.batches (Happening.events trace) = []
  refused : ∀ e, outcome = .error (.sink e) ↔
    ∃ batch, Event.batches (Happening.events trace) = [batch] ∧ (sink t batch).1 = .error e

theorem guarded_of_no_batch (hbatches : Event.batches (Happening.calls trace) = [])
    (haccepted : ∀ e, outcome ≠ .error (.sink e)) : c.Guarded sink t trace outcome := by
  rw [Happening.calls, Event.batches_calls] at hbatches
  refine ⟨fun batch earlier later h => ?_, fun _ => hbatches, fun e => ?_⟩
  · subst h
    have hmem := mem_batches batch earlier later
    rw [hbatches] at hmem
    exact absurd hmem List.not_mem_nil
  · simp [hbatches, haccepted e]

theorem guarded_of_one_batch {batch : List Metric}
    (hbatches : Event.batches (Happening.calls trace) = [batch]) (nonempty : batch ≠ [])
    (verified : ∀ earlier later, trace = earlier ++ .delivered batch :: later →
      ∃ reply, (Happening.repliesTo "config-get" earlier)[1]? = some reply ∧ c.Usable reply)
    (verdict : ∀ e, outcome = .error (.sink e) ↔ (sink t batch).1 = .error e)
    (given : ¬ outcome.Withholds c.policy) : c.Guarded sink t trace outcome := by
  rw [Happening.calls, Event.batches_calls] at hbatches
  refine ⟨fun delivered earlier later htrace => ?_, fun hwithheld => absurd hwithheld given,
    fun e => ?_⟩
  · have hmem := mem_batches delivered earlier later
    rw [← htrace, hbatches] at hmem
    obtain rfl : delivered = batch := List.mem_singleton.1 hmem
    exact ⟨nonempty, verified earlier later htrace⟩
  · rw [hbatches, verdict e]
    simp

/-- In a cycle that came to its second reading, a batch lies behind that
reading. -/
theorem second_reading_earlier {first second : Reply} {s₁ s₂ s₃ : σ}
    {asked earlier later : List (Happening σ)} {p : Inquiry.Progress} {batch : List Metric}
    (h : (c.inquiry (Request.planned before)).Concludes w s₁ asked p s₂)
    (htrace : c.readHappenings first s₁ ++ .passed .firstReading ::
      (c.collectHappenings before asked p.taken ++ .passed .statistics ::
        (c.readHappenings second s₃ ++ rest)) = earlier ++ .delivered batch :: later) :
    (Happening.repliesTo "config-get" earlier)[1]? = some second := by
  have hfirst : .delivered batch ∉ c.readHappenings first s₁ ++ .passed .firstReading ::
      (c.collectHappenings before asked p.taken ++ .passed .statistics ::
        c.readHappenings second s₃) := by
    simp [delivered_not_mem_readHappenings, delivered_not_mem_collectHappenings h]
  have hparts : (c.readHappenings first s₁ ++ .passed .firstReading ::
      (c.collectHappenings before asked p.taken ++ .passed .statistics ::
        c.readHappenings second s₃)) ++ rest = earlier ++ .delivered batch :: later := by
    rw [← htrace]
    simp only [List.append_assoc, List.cons_append]
  rcases append_eq_append_cons hparts with ⟨rest, hbehind⟩ | ⟨between, rfl, -⟩
  · exact absurd (by rw [hbehind]; simp) hfirst
  simp [Happening.repliesTo_append, Happening.repliesTo_passed, repliesTo_readHappenings,
    repliesTo_collectHappenings h]

theorem opening_ne_sink {reading : Except Kea.Error Reading} {e : CollectionError}
    (h : opening reading = .error e) (fault : SinkError) : e ≠ .sink fault := by
  rintro rfl
  rcases reading with e | ⟨before⟩ | ⟨result, text⟩
  · simp [opening] at h
  · cases hempty : before.isEmpty <;> simp [opening, hempty] at h
  · simp [opening] at h

/-- **The discipline of a cycle.** However an agent answers, and whatever the
sink does, what is asked and handed over is the start of the planned sequence,
for one service. A batch is never empty and comes after a second reading that
can be used; an outcome that withholds the metrics leaves the sink alone; and
the sink's error is returned just when it refused the one batch. -/
theorem cycle_disciplined (h : Completes w sink c.cycle s t trace outcome s' t') :
    c.Ordered (c.findings trace).before? (Happening.calls trace) ∧
      c.Guarded sink t trace outcome := by
  cases unfolds_of_completes h with
  | @unopened first s₁ e answers fails =>
    have hcalls := calls_readHappenings (c := c) first s'
    refine ⟨ordered_of_start [] (Nat.zero_le 1) ?_,
      guarded_of_no_batch (by rw [hcalls]; rfl) fun fault => by
        simpa using opening_ne_sink fails fault⟩
    rw [hcalls]
    exact List.cons_prefix_cons.2 ⟨rfl, List.nil_prefix⟩
  | @uncollected first s₁ _ before asked p e answers opens inquired fails =>
    have hcalls := calls_uncollected first s₁ inquired
    refine ⟨ordered_of_start [] (Nat.zero_le 1) ?_,
      guarded_of_no_batch ?_ (by simp)⟩
    · rw [hcalls, before?_eq opens]
      exact List.cons_prefix_cons.2 ⟨rfl,
        ((List.take_prefix _ _).map _).trans (List.prefix_append _ _)⟩
    · rw [hcalls]
      exact Event.batches_asked _
  | @concluded first second s₁ s₂ _ before asked rest p collected _ _ answers opens inquired
      collects again ends =>
    have hcalls := calls_concluded first second s₁ s' rest inquired collects
    have hdealing := dealing_of_ending ends
    rw [before?_eq opens]
    generalize Happening.calls rest = dealt at hcalls hdealing
    cases hdealing with
    | none accepted =>
      refine ⟨ordered_of_start [] (Nat.zero_le 1) (hcalls ▸ List.prefix_rfl),
        guarded_of_no_batch ?_ accepted⟩
      rw [hcalls]
      exact batches_plannedCalls before []
    | @one after batch read listed nonempty verdict given =>
      refine ⟨ordered_of_start [batch] le_rfl (hcalls ▸ List.prefix_rfl),
        guarded_of_one_batch ?_ nonempty (fun earlier later htrace => ?_) verdict given⟩
      · rw [hcalls]
        exact batches_plannedCalls before [batch]
      · exact ⟨second, second_reading_earlier inquired htrace, usable_of_reading read listed⟩

/-- The discipline where the sink refuses the one batch of the cycle. -/
theorem cycle_disciplined_refused :
    ∃ trace, Completes (Agent.inTurn AddedSubnet.replies).world (Sink.refusing (.timedOut "carbon"))
        AddedSubnet.collector.cycle 0 [] trace (.error (.sink (.timedOut "carbon"))) 5 [] ∧
      AddedSubnet.collector.Ordered (AddedSubnet.collector.findings trace).before?
        (Happening.calls trace) ∧
      AddedSubnet.collector.Guarded (Sink.refusing (.timedOut "carbon")) [] trace
        (.error (.sink (.timedOut "carbon"))) := by
  obtain ⟨trace, hunfolds, -⟩ := AddedSubnet.unfolds_of_ending
    (Sink.refusing (.timedOut "carbon")) []
    (.driftedLost rfl AddedSubnet.drift?_eq AddedSubnet.kept_eq_counted rfl)
  have h := completes_of_unfolds hunfolds
  exact ⟨trace, h, cycle_disciplined h⟩

end Collector

end KeaGauge
