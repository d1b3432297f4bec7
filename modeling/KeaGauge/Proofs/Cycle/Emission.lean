import KeaGauge.Proofs.Cycle.Collection
import KeaGauge.Proofs.Kea.Snapshot
/-!
# What a cycle emits

The replies of an execution decide what reaches a sink that holds all it is
handed: `findings` are the two snapshots and the metrics collected between
them, and `emission` says which of the metrics that makes. It compares the
sets of pairs that the snapshots list, and nothing else of them. Every
execution of a cycle emits just this, and its report agrees
(`cycle_emission`).
-/

namespace KeaGauge

open Kea (Command Snapshot)
open Dialogue (Completes)
open Scripted

namespace Happening

variable {σ : Type}

/-- The replies taken up to commands of a name, in this order. -/
def repliesTo (name : String) (trace : List (Happening σ)) : List Reply :=
  ((takings trace).filter fun x => x.1.name = name).map (·.2)

theorem takings_append (trace more : List (Happening σ)) :
    takings (trace ++ more) = takings trace ++ takings more :=
  List.filterMap_append

theorem takings_noted (notices : List Notice) :
    takings (notices.map (.noted (σ := σ))) = [] := by
  simp [takings, List.filterMap_map]

theorem repliesTo_append (name : String) (trace more : List (Happening σ)) :
    repliesTo name (trace ++ more) = repliesTo name trace ++ repliesTo name more := by
  rw [repliesTo, takings_append, List.filter_append, List.map_append]
  rfl

theorem repliesTo_passed (name : String) (stage : Stage) (rest : List (Happening σ)) :
    repliesTo name (.passed stage :: rest) = repliesTo name rest := by
  rfl

end Happening

/-- What the replies of a cycle hold: the snapshots of both readings, and the
metrics collected in between. -/
structure Findings where
  before? : Option Snapshot
  collected? : Option (List Collected)
  after? : Option Snapshot

/-- **What is to be emitted**: everything when both snapshots list the same
pairs, and otherwise what the policy keeps, which is nothing or the metrics on
pairs that the second snapshot lists too. -/
def Findings.emission (policy : DiscardPolicy) : Findings → List Metric
  | ⟨some before, some collected, some after⟩ =>
    if before.pairs = after.pairs then collected.map (·.metric)
    else match policy with
      | .wholeCycle => []
      | .affectedSubnets =>
        (collected.filter fun x => x.assignment ∈ after.pairs).map (·.metric)
  | _ => []

/-- **What a report has to say**, given the findings and what was emitted. -/
def Findings.Agrees (f : Findings) (emitted : List Metric) : Outcome → Prop
  | .ok (.consistent n) => ∃ before collected after,
      f = ⟨some before, some collected, some after⟩ ∧ before.pairs = after.pairs ∧
        n = collected.length
  | .ok (.drifted _ n suppressed) => ∃ before collected after,
      f = ⟨some before, some collected, some after⟩ ∧ before.pairs ≠ after.pairs ∧
        n = emitted.length ∧ n + suppressed = collected.length
  | .ok (.unverified _ _ suppressed) => emitted = [] ∧ ∃ before collected,
      f = ⟨some before, some collected, none⟩ ∧ suppressed = collected.length
  | .error _ => emitted = [] ∧ ∀ before collected after,
      f = ⟨some before, some collected, some after⟩ → after.subnets = []

namespace Collector

variable {σ τ : Type} {w : World σ} {c : Collector} {s s' : σ} {held held' : List Metric}
variable {trace rest : List (Happening σ)} {outcome : Outcome}

/-- The snapshot that a reading brings. -/
def handedOut? : Except Kea.Error Reading → Option Snapshot
  | .ok (.snapshot s) => some s
  | _ => none

theorem handedOut?_eq_some_iff {reading : Except Kea.Error Reading} {s : Snapshot} :
    handedOut? reading = some s ↔ reading = .ok (.snapshot s) := by
  rcases reading with e | ⟨s'⟩ | ⟨result, text⟩ <;> simp [handedOut?]

/-- **What is found in the replies of a cycle**: the first and the second
reply to `config-get`, and those to `statistic-get`. -/
def findings (c : Collector) (trace : List (Happening σ)) : Findings :=
  let readings := Happening.repliesTo "config-get" trace
  let before? := readings[0]?.bind (handedOut? <| c.reading ·)
  ⟨before?,
    before?.bind fun before =>
      (Request.collectedFrom c.url (Request.planned before)
        (Happening.repliesTo "statistic-get" trace)).toOption,
    readings[1]?.bind (handedOut? <| c.reading ·)⟩

/-! ## The replies of a cycle -/

theorem repliesTo_readHappenings (reply : Reply) (s : σ) (name : String) :
    Happening.repliesTo name (c.readHappenings reply s) =
      if "config-get" = name then [reply] else [] := by
  have htakings : Happening.takings (c.readHappenings reply s) =
      [(Command.configGet c.family, reply)] := by
    rw [readHappenings, Happening.takings_append, Happening.takings_noted]
    rfl
  rw [Happening.repliesTo, htakings]
  by_cases h : "config-get" = name <;> simp [Command.configGet, h]

theorem repliesTo_collectHappenings {before : Snapshot} {asked : List (Happening σ)}
    {p : Inquiry.Progress}
    (h : (c.inquiry (Request.planned before)).Concludes w s asked p s') (name : String) :
    Happening.repliesTo name (c.collectHappenings before asked p.taken) =
      if "statistic-get" = name then p.taken else [] := by
  have htakings : Happening.takings (c.collectHappenings before asked p.taken) =
      (c.inquiry (Request.planned before)).commands.zip p.taken := by
    rw [collectHappenings, Happening.takings_append, Happening.takings_noted, List.append_nil,
      h.takings_eq]
  have hname : ∀ x ∈ (c.inquiry (Request.planned before)).commands.zip p.taken,
      x.1.name = "statistic-get" := by
    rintro ⟨command, reply⟩ hx
    obtain ⟨r, -, rfl⟩ := List.mem_map.1 (List.of_mem_zip hx).1
    rfl
  rw [Happening.repliesTo, htakings]
  split
  · next heq =>
    subst heq
    rw [List.filter_eq_self.2 fun x hx => by simpa using hname x hx,
      List.map_snd_zip h.coherent.length_taken_le]
  · next hne =>
    rw [List.filter_eq_nil_iff.2 fun x hx => by simpa [hname x hx] using hne, List.map_nil]

theorem repliesTo_ending {before : Snapshot} {collected : List Collected} {sink : Sink τ}
    {t t' : τ} {reading : Except Kea.Error Reading}
    (h : c.Ending before collected sink t reading trace outcome t') (name : String) :
    Happening.repliesTo name trace = [] := by
  have htakings : Happening.takings trace = [] := by
    cases h <;> simp [Happening.takings, Happening.handed]
  rw [Happening.repliesTo, htakings]
  rfl

/-! ## The findings of a cycle -/

theorem handedOut?_of_opens {reading : Except Kea.Error Reading} {before : Snapshot}
    (h : opening reading = .ok before) : handedOut? reading = some before :=
  handedOut?_eq_some_iff.2 (opening_eq_ok_iff.1 h).1

variable {first second : Reply} {s₁ s₂ s₃ : σ} {before : Snapshot} {asked : List (Happening σ)}
variable {p : Inquiry.Progress}

/-- A cycle that did not come to a second reading finds no second
snapshot. -/
theorem findings_unopened : (c.findings (c.readHappenings first s₁)).after? = none := by
  simp [findings, repliesTo_readHappenings]

theorem findings_uncollected
    (h : (c.inquiry (Request.planned before)).Concludes w s₁ asked p s₂) :
    (c.findings (c.readHappenings first s₁ ++ .passed .firstReading ::
      c.collectHappenings before asked p.taken)).after? = none := by
  simp [findings, Happening.repliesTo_append, Happening.repliesTo_passed,
    repliesTo_readHappenings, repliesTo_collectHappenings h]

/-- One that came to its second reading finds what it collected. -/
theorem findings_concluded {collected : List Collected} {sink : Sink τ} {t t' : τ}
    {reading : Except Kea.Error Reading} (opens : opening (c.reading first) = .ok before)
    (h : (c.inquiry (Request.planned before)).Concludes w s₁ asked p s₂)
    (collects : Request.collectedFrom c.url (Request.planned before) p.taken = .ok collected)
    (ends : c.Ending before collected sink t reading rest outcome t') :
    c.findings (c.readHappenings first s₁ ++ .passed .firstReading ::
        (c.collectHappenings before asked p.taken ++ .passed .statistics ::
          (c.readHappenings second s₃ ++ rest))) =
      ⟨some before, some collected, handedOut? (c.reading second)⟩ := by
  simp [findings, Happening.repliesTo_append, Happening.repliesTo_passed,
    repliesTo_readHappenings, repliesTo_collectHappenings h, repliesTo_ending ends,
    handedOut?_of_opens opens, collects, Except.toOption]

/-! ## The emission -/

/-- When the second snapshot lists nothing, nothing is to be emitted. -/
theorem emission_eq_nil {after : Snapshot} (policy : DiscardPolicy) (collected : List Collected)
    (hbefore : before.subnets ≠ []) (hafter : after.subnets = []) :
    Findings.emission policy ⟨some before, some collected, some after⟩ = [] := by
  have hempty := Snapshot.pairs_eq_empty_iff.2 hafter
  have hne : before.pairs ≠ after.pairs := by
    rw [hempty]
    exact fun h => hbefore (Snapshot.pairs_eq_empty_iff.1 h)
  simp only [Findings.emission, if_neg hne]
  cases policy with
  | wholeCycle => rfl
  | affectedSubnets => simp [hempty]

/-- What was collected counts on pairs that the first snapshot lists. -/
theorem Brings.assignment_mem_pairs {collected : List Collected}
    (h : c.Brings before trace collected) {x : Collected} (hx : x ∈ collected) :
    x.assignment ∈ before.pairs := by
  obtain ⟨subnet, hsubnet, -, -, hassignment, -⟩ := h.origin hx
  rw [hassignment]
  exact List.mem_toFinset.2 (List.mem_map_of_mem hsubnet)

/-- What the policy keeps of what was collected are the metrics on pairs that
both snapshots list. -/
theorem kept_eq {after : Snapshot} {drift : Kea.Drift} {collected : List Collected}
    (hbrings : c.Brings before trace collected) (hdrift : before.drift? after = some drift) :
    c.policy.kept drift collected =
      Findings.emission c.policy ⟨some before, some collected, some after⟩ := by
  simp only [Findings.emission, if_neg (Snapshot.pairs_ne_of_drift? hdrift)]
  cases c.policy with
  | wholeCycle => rfl
  | affectedSubnets =>
    -- what was collected is on pairs of the first snapshot, where stable means listed again
    have hfilter : (collected.filter fun x => drift.isStable x.assignment) =
        collected.filter fun x => x.assignment ∈ after.pairs := by
      refine List.filter_congr fun x hx => ?_
      rw [Bool.eq_iff_iff, decide_eq_true_iff]
      exact Snapshot.isStable_iff hdrift (hbrings.assignment_mem_pairs hx)
    rw [← hfilter]
    rfl

theorem length_kept_le (policy : DiscardPolicy) (drift : Kea.Drift) (collected : List Collected) :
    (policy.kept drift collected).length ≤ collected.length := by
  cases policy with
  | wholeCycle => exact Nat.zero_le _
  | affectedSubnets =>
    rw [DiscardPolicy.kept, List.length_map]
    exact List.length_filter_le _ _

/-- **What an ending emits**, and that its report agrees. -/
theorem emission_of_ending {reading : Except Kea.Error Reading} {collected : List Collected}
    (nonempty : before.isEmpty = false) (hbrings : c.Brings before trace collected)
    (h : c.Ending before collected Sink.memory held reading rest outcome held') {f : Findings}
    (hf : f = ⟨some before, some collected, handedOut? reading⟩) :
    held' = held ++ f.emission c.policy ∧ f.Agrees (f.emission c.policy) outcome := by
  subst hf
  have hbefore : before.subnets ≠ [] := by simpa [Snapshot.isEmpty] using nonempty
  cases h with
  | unread e =>
    refine ⟨(List.append_nil _).symm, rfl, ?_⟩
    intro _ _ _ h
    exact absurd (Findings.mk.inj h).2.2 (by simp [handedOut?])
  | refused result text =>
    exact ⟨(List.append_nil _).symm, rfl, before, collected, rfl, rfl⟩
  | @noSubnets after empty =>
    -- the first snapshot listed a pair and this one lists none, so they differ
    have hafter : after.subnets = [] := by simpa [Snapshot.isEmpty] using empty
    have hnil := emission_eq_nil c.policy collected hbefore hafter
    refine ⟨by rw [handedOut?, hnil, List.append_nil], hnil, ?_⟩
    intro _ _ _ h
    obtain rfl := Option.some.inj (Findings.mk.inj h).2.2
    exact hafter
  | @consistent after _ _ _ same all accepted =>
    have hpairs := Snapshot.drift?_eq_none_iff.1 same
    have hemission : Findings.emission c.policy ⟨some before, some collected, some after⟩ =
        collected.map (·.metric) := by
      simp only [Findings.emission, if_pos hpairs]
    rw [Sink.take_memory] at accepted
    subst all
    rw [handedOut?, hemission]
    refine ⟨(Prod.mk.inj accepted).2.symm, before, collected, after, rfl, hpairs, ?_⟩
    rw [List.length_map]
  | consistentLost _ _ _ lost =>
    -- a memory refuses nothing
    rw [Sink.take_memory] at lost
    exact absurd (Prod.mk.inj lost).1 (by simp)
  | @drifted after drift _ _ _ differs kept accepted =>
    have hle := length_kept_le c.policy drift collected
    rw [Sink.take_memory] at accepted
    rw [handedOut?, ← kept_eq hbrings differs, ← kept]
    rw [← kept] at hle
    exact ⟨(Prod.mk.inj accepted).2.symm, before, collected, after, rfl,
      Snapshot.pairs_ne_of_drift? differs, rfl, Nat.add_sub_cancel' hle⟩
  | driftedLost _ _ _ lost =>
    rw [Sink.take_memory] at lost
    exact absurd (Prod.mk.inj lost).1 (by simp)

/-- Without a second snapshot nothing is to be emitted, and the cycle may end
with an error. -/
theorem emission_of_after?_eq_none {f : Findings} {policy : DiscardPolicy} {e : CollectionError}
    (h : f.after? = none) :
    held = held ++ f.emission policy ∧ f.Agrees (f.emission policy) (.error e) := by
  obtain ⟨before?, collected?, after?⟩ := f
  obtain rfl : after? = none := h
  have hnil : Findings.emission policy ⟨before?, collected?, none⟩ = [] := by
    cases before? <;> cases collected? <;> rfl
  rw [hnil, List.append_nil]
  refine ⟨rfl, rfl, ?_⟩
  intro _ _ _ h
  exact absurd (Findings.mk.inj h).2.2 (by simp)

/-- **The emission law.** However an agent answers, and in whatever order, a
sink that holds all it is handed holds, after a cycle, what it held before and
then what the replies of the cycle make the emission. The outcome agrees with
both. -/
theorem cycle_emission (h : Completes w Sink.memory c.cycle s held trace outcome s' held') :
    held' = held ++ (c.findings trace).emission c.policy ∧
      (c.findings trace).Agrees ((c.findings trace).emission c.policy) outcome := by
  cases unfolds_of_completes h with
  | unopened _ _ =>
    exact emission_of_after?_eq_none findings_unopened
  | uncollected _ _ inquired _ =>
    exact emission_of_after?_eq_none (findings_uncollected inquired)
  | concluded _ opens inquired collects _ ends =>
    exact emission_of_ending (opening_eq_ok_iff.1 opens).2
      (brings_of_collectedFrom inquired collects) ends
      (findings_concluded opens inquired collects ends)

end Collector

/-! ## A subnet added between the readings -/

namespace Collector.AddedSubnet

/-- A collector that discards only what is affected. -/
def collector : Collector := ⟨"http://192.0.2.1/", .v4, .affectedSubnets, 2⟩

/-- The subnets of the first reading. -/
def before : Snapshot := ⟨.v4, [⟨7, ⟨.ofNat .v4 0xC6336400, 24, by decide⟩, []⟩], none⟩

/-- Those of the second reading, with one more. -/
def after : Snapshot :=
  { before with
    subnets := before.subnets ++ [⟨8, ⟨.ofNat .v4 0xCB007100, 24, by decide⟩, []⟩] }

/-- The replies to the requests for statistics. -/
def statistics : List Reply :=
  [some (Fixture.statisticAnswer "subnet[7].total-addresses"
      [(256, "2024-05-01 10:00:00.000001")]).text,
    some (Fixture.refusal 3 "no data").text, some (Fixture.refusal 3 "no data").text]

/-- The reply to `config-get` with some entries. -/
def config (entries : List Json.Value) : Reply :=
  some (Fixture.configAnswer (Fixture.config .v4 entries [])).text

/-- The reply to the first reading. -/
def first : Reply := config [Fixture.subnet 7 "198.51.100.0/24"]

/-- The reply to the second. -/
def second : Reply :=
  config [Fixture.subnet 7 "198.51.100.0/24", Fixture.subnet 8 "203.0.113.0/24"]

/-- All replies of the cycle. -/
def replies : List Reply := first :: (statistics ++ [second])

/-- The only metric that is collected. -/
def counted : Collected :=
  ⟨7, ⟨⟨⟨2024, 5, 1, by decide, by decide, by decide⟩,
    ⟨10, 0, 0, 1000, by decide, by decide, by decide, by decide⟩⟩,
    ⟨.ofNat .v4 0xC6336400, 24, by decide⟩, .total, 256⟩⟩

/-- The drift between the readings. -/
def drift : Kea.Drift := ⟨[⟨8, ⟨.ofNat .v4 0xCB007100, 24, by decide⟩⟩], [], []⟩

theorem reading_first : collector.reading first = .ok (.snapshot before) :=
  handedOut?_eq_some_iff.1 (by decide +kernel)

theorem reading_second : collector.reading second = .ok (.snapshot after) :=
  handedOut?_eq_some_iff.1 (by decide +kernel)

theorem answers_eq :
    (collector.inquiry (Request.planned before)).answers (Agent.inTurn replies) 1 =
      (statistics, 4) := by
  decide +kernel

theorem collectedFrom_eq :
    Request.collectedFrom collector.url (Request.planned before) statistics = .ok [counted] := by
  have h : (Request.collectedFrom collector.url (Request.planned before) statistics).toOption =
      some [counted] := by
    decide +kernel
  cases hresult : Request.collectedFrom collector.url (Request.planned before) statistics with
  | error e => simp [hresult, Except.toOption] at h
  | ok collected =>
    rw [hresult] at h
    rw [Option.some.inj h]

/-- The cycle comes to its second reading, and from there to any ending that
it may have. -/
theorem unfolds_of_ending {τ : Type} (sink : Sink τ) (t : τ) {t' : τ}
    {rest : List (Happening Nat)} {outcome : Outcome}
    (ends : collector.Ending before [counted] sink t (.ok (.snapshot after)) rest outcome t') :
    ∃ trace, collector.Unfolds (Agent.inTurn replies).world sink 0 t trace outcome 5 t' ∧
      rest ⊆ trace := by
  obtain ⟨asked, inquired, -⟩ := Inquiry.concludes_answers (Agent.inTurn replies)
    (collector.inquiry (Request.planned before)) 1
  rw [answers_eq] at inquired
  rw [← reading_second] at ends
  have hfirst : (Agent.inTurn replies).world 0 (.configGet collector.family) first 1 := rfl
  have hsecond : (Agent.inTurn replies).world 4 (.configGet collector.family) second 5 := rfl
  exact ⟨_, .concluded hfirst (opening_eq_ok_iff.2 ⟨reading_first, rfl⟩) inquired
    collectedFrom_eq hsecond ends, fun x hx => by simp [hx]⟩

theorem drift?_eq : before.drift? after = some drift := by
  decide +kernel

theorem kept_eq_counted : [counted.metric] = collector.policy.kept drift [counted] := by
  decide +kernel

/-- The metric is emitted, for its subnet is not affected. -/
theorem unfolds : ∃ trace, collector.Unfolds (Agent.inTurn replies).world Sink.memory 0 []
      trace (.ok (.drifted drift 1 0)) 5 [counted.metric] ∧
    Happening.delivered [counted.metric] ∈ trace := by
  obtain ⟨trace, h, hrest⟩ := unfolds_of_ending Sink.memory []
    (.drifted rfl drift?_eq kept_eq_counted rfl)
  exact ⟨trace, h, hrest (by simp [Happening.handed])⟩

end Collector.AddedSubnet

namespace Collector

/-- The law where a subnet is added between the readings: the policy asks only
about subnets that are affected, so nothing is discarded. -/
theorem cycle_emission_added_subnet :
    ∃ trace, Completes (Agent.inTurn AddedSubnet.replies).world Sink.memory
        AddedSubnet.collector.cycle 0 [] trace (.ok (.drifted AddedSubnet.drift 1 0)) 5
        [AddedSubnet.counted.metric] ∧
      [AddedSubnet.counted.metric] = [] ++
        (AddedSubnet.collector.findings trace).emission AddedSubnet.collector.policy ∧
      (AddedSubnet.collector.findings trace).Agrees
        ((AddedSubnet.collector.findings trace).emission AddedSubnet.collector.policy)
        (.ok (.drifted AddedSubnet.drift 1 0)) := by
  obtain ⟨trace, hunfolds, -⟩ := AddedSubnet.unfolds
  have h := completes_of_unfolds hunfolds
  exact ⟨trace, h, cycle_emission h⟩

end Collector

end KeaGauge
