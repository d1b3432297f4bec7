import KeaGauge.Proofs.Cycle.Emission
import Mathlib.Order.Basic
/-!
# Metrics under reconfiguration

An agent may be reconfigured at any moment of a cycle, also between the
answers to its commands. `World.Follows` is such an agent: its state is the
moment, and a configuration handed out lists the pairs current then. Where no
pair comes back that was gone, a pair that both readings list was current all
the time between them, and every answer to a request for statistics falls in
that time. So whatever is handed to the sink was counted while its subnet was
what it is said to be (`delivered_current`).
-/

namespace KeaGauge

open Kea (Assignment Command Response Snapshot Sampling statisticName)
open Dialogue (Completes)

/-! ## Time in an execution -/

section Moments

variable {M : Type} [Preorder M] {w : World M} {q : Inquiry}

/-- Every answer of an inquiry falls between its start and its end. -/
theorem Inquiry.answered_between
    (forward : ∀ {s : M} {command : Command} {reply : Reply} {s' : M},
      w s command reply s' → s ≤ s')
    {a b : Inquiry.Progress × M} {trace : List (Happening M)}
    (h : Reaches (Inquiry.Step w q) a trace b) :
    a.2 ≤ b.2 ∧ ∀ place command reply moment,
      .answered place command reply moment ∈ trace → a.2 ≤ moment ∧ moment ≤ b.2 := by
  induction h with
  | refl => exact ⟨le_rfl, fun _ _ _ _ hmem => absurd hmem List.not_mem_nil⟩
  | @next a b c first rest head tail ih =>
    obtain ⟨hle, hbetween⟩ := ih
    -- only an answer takes time, and its moment is the one reached
    have hstep : a.2 ≤ b.2 ∧ ∀ place command reply moment,
        .answered place command reply moment ∈ first → moment = b.2 := by
      cases head with
      | send => exact ⟨le_rfl, by simp⟩
      | answer _ _ _ answers => exact ⟨forward answers, by simp⟩
      | take => exact ⟨le_rfl, by simp⟩
    refine ⟨hstep.1.trans hle, fun place command reply moment hmem => ?_⟩
    rcases List.mem_append.1 hmem with hmem | hmem
    · obtain rfl := hstep.2 _ _ _ _ hmem
      exact ⟨hstep.1, hle⟩
    · obtain ⟨hlower, hupper⟩ := hbetween _ _ _ _ hmem
      exact ⟨hstep.1.trans hlower, hupper⟩

end Moments

/-- **An agent under reconfiguration**, where `current` are the pairs at each
moment: an answer comes no earlier than the one before, and the configuration
handed out at a moment lists just what is current then. -/
structure World.Follows {M : Type} [Preorder M] (w : World M) (c : Collector)
    (current : M → Finset Assignment) : Prop where
  forward : ∀ {s : M} {command : Command} {reply : Reply} {s' : M},
    w s command reply s' → s ≤ s'
  truthful : ∀ {s : M} {reply : Reply} {s' : M} {listed : Snapshot},
    w s (.configGet c.family) reply s' → c.reading reply = .ok (.snapshot listed) →
      listed.pairs = current s'

/-- No pair that was dropped comes back before the end. -/
def NeverReturns {M : Type} [Preorder M] (current : M → Finset Assignment)
    (start finish : M) : Prop :=
  ∀ pair i j k, start ≤ i → i ≤ j → j ≤ k → k ≤ finish →
    pair ∈ current i → pair ∉ current j → pair ∉ current k

namespace Collector

variable {σ τ : Type} {sink : Sink τ} {c : Collector} {before : Snapshot} {t t' : τ}
variable {outcome : Outcome} {collected : List Collected} {batch : List Metric} {m : Metric}

/-! ## What is handed over -/

/-- A metric that a policy keeps is on a pair that the second snapshot lists,
if the first did. -/
theorem mem_kept {after : Snapshot} {drift : Kea.Drift} {policy : DiscardPolicy}
    (hdrift : before.drift? after = some drift) (hm : m ∈ policy.kept drift collected) :
    ∃ x ∈ collected, x.metric = m ∧ (x.assignment ∈ before.pairs → x.assignment ∈ after.pairs) := by
  cases policy with
  | wholeCycle => exact absurd hm List.not_mem_nil
  | affectedSubnets =>
    obtain ⟨x, hx, rfl⟩ := List.mem_map.1 hm
    obtain ⟨hx, hstable⟩ := List.mem_filter.1 hx
    exact ⟨x, hx, rfl, fun hpair => (Snapshot.isStable_iff hdrift hpair).1 hstable⟩

theorem mem_of_mem_handed {σ : Type} {given : List Metric}
    (h : .delivered batch ∈ Happening.handed (σ := σ) given) : batch = given := by
  unfold Happening.handed at h
  split at h
  · exact absurd h List.not_mem_nil
  · simpa using h

theorem delivered_not_mem_readHappenings {reply : Reply} {s : σ} :
    .delivered batch ∉ c.readHappenings reply s := by
  simp [readHappenings, Happening.exchange]

theorem delivered_not_mem_collectHappenings {w : World σ} {s s' : σ}
    {asked : List (Happening σ)} {p : Inquiry.Progress}
    (h : (c.inquiry (Request.planned before)).Concludes w s asked p s') :
    .delivered batch ∉ c.collectHappenings before asked p.taken := by
  simp [collectHappenings, Inquiry.delivered_not_mem h.1]

/-- **What an ending hands over** is all that was collected, or what the
policy keeps of it. -/
theorem eq_of_delivered {reading : Except Kea.Error Reading} {rest : List (Happening σ)}
    (h : c.Ending before collected sink t reading rest outcome t')
    (hbatch : .delivered batch ∈ rest) :
    ∃ after, reading = .ok (.snapshot after) ∧
      ((before.drift? after = none ∧ batch = collected.map (·.metric)) ∨
        ∃ drift, before.drift? after = some drift ∧ batch = c.policy.kept drift collected) := by
  cases h with
  | unread e => simp at hbatch
  | refused result text => simp at hbatch
  | noSubnets _ => simp at hbatch
  | @consistent after given _ _ same all _ =>
    have hhanded : .delivered batch ∈ Happening.handed (σ := σ) given := by simpa using hbatch
    exact ⟨after, rfl, .inl ⟨same, (mem_of_mem_handed hhanded).trans all⟩⟩
  | @consistentLost after given _ _ _ same all _ =>
    have hhanded : .delivered batch ∈ Happening.handed (σ := σ) given := by simpa using hbatch
    exact ⟨after, rfl, .inl ⟨same, (mem_of_mem_handed hhanded).trans all⟩⟩
  | @drifted after drift given _ _ differs kept _ =>
    have hhanded : .delivered batch ∈ Happening.handed (σ := σ) given := by simpa using hbatch
    exact ⟨after, rfl, .inr ⟨drift, differs, (mem_of_mem_handed hhanded).trans kept⟩⟩
  | @driftedLost after drift given _ _ _ differs kept _ =>
    have hhanded : .delivered batch ∈ Happening.handed (σ := σ) given := by simpa using hbatch
    exact ⟨after, rfl, .inr ⟨drift, differs, (mem_of_mem_handed hhanded).trans kept⟩⟩

/-- Whatever is handed over was collected, and is on a pair that the second
reading lists, if the first did. -/
theorem mem_of_delivered {reading : Except Kea.Error Reading} {rest : List (Happening σ)}
    (h : c.Ending before collected sink t reading rest outcome t')
    (hbatch : .delivered batch ∈ rest) (hm : m ∈ batch) :
    ∃ after, reading = .ok (.snapshot after) ∧ ∃ x ∈ collected, x.metric = m ∧
      (x.assignment ∈ before.pairs → x.assignment ∈ after.pairs) := by
  obtain ⟨after, hreading, ⟨same, rfl⟩ | ⟨drift, differs, rfl⟩⟩ := eq_of_delivered h hbatch
  · obtain ⟨x, hx, rfl⟩ := List.mem_map.1 hm
    exact ⟨after, hreading, x, hx, rfl, fun hpair => Snapshot.drift?_eq_none_iff.1 same ▸ hpair⟩
  · exact ⟨after, hreading, mem_kept differs hm⟩

/-! ## Attribution -/

/-- A metric comes from an answer to the request for a statistic of the
subnet of an id: this was the answer, and this the moment it was given. -/
def ComesFrom {M : Type} (c : Collector) (trace : List (Happening M)) (m : Metric) (id : Nat)
    (moment : M) : Prop :=
  ∃ statistic place reply response samples points,
    (statistic, m.key) ∈ Kea.tracked ∧
    .answered place (.statisticGet c.family (statisticName id statistic)) reply moment ∈ trace ∧
    reply.response c.url = .ok response ∧ response.result = 0 ∧
    response.arguments.get? (statisticName id statistic) = some (.list samples) ∧
    Sampling samples points ∧ ⟨m.instant, m.value⟩ ∈ points

variable {M : Type} [Preorder M] {w : World M} {current : M → Finset Assignment} {s s' : M}
variable {trace : List (Happening M)}

/-- **Whatever is handed to the sink was current when it was counted**: each
metric comes from an answer, given at a moment when its prefix was that of the
id asked about. -/
theorem delivered_current (hw : w.Follows c current) (hreturn : NeverReturns current s s')
    (h : Completes w sink c.cycle s t trace outcome s' t') (hbatch : .delivered batch ∈ trace)
    (hm : m ∈ batch) :
    ∃ id moment, c.ComesFrom trace m id moment ∧ ⟨id, m.cidr⟩ ∈ current moment := by
  cases unfolds_of_completes h with
  | unopened _ _ => exact absurd hbatch delivered_not_mem_readHappenings
  | uncollected _ _ inquired _ =>
    simp [delivered_not_mem_readHappenings, delivered_not_mem_collectHappenings inquired] at hbatch
  | @concluded first second s₁ s₂ _ before asked rest p collected _ _ answers opens inquired
      collects again ends =>
    have hrest : .delivered batch ∈ rest := by
      simpa [delivered_not_mem_readHappenings, delivered_not_mem_collectHappenings inquired]
        using hbatch
    obtain ⟨after, hafter, x, hx, rfl, hstays⟩ := mem_of_delivered ends hrest hm
    have hbrings := brings_of_collectedFrom inquired collects
    have hbefore := hbrings.assignment_mem_pairs hx
    obtain ⟨-, -, statistic, htracked, -, place, reply, response, samples, points,
      ⟨moment, hanswered⟩, hresponse, success, found, sampling, hpoint⟩ := hbrings.origin hx
    have hmem : .answered place (.statisticGet c.family (statisticName x.id statistic)) reply
        moment ∈ c.collectHappenings before asked p.taken :=
      List.mem_append_left _ hanswered
    obtain ⟨hlower, hupper⟩ :=
      (Inquiry.answered_between hw.forward inquired.1).2 _ _ _ _ hanswered
    refine ⟨x.id, moment, ⟨statistic, place, reply, response, samples, points, htracked,
      by simp [hmem], hresponse, success, found, sampling, hpoint⟩, ?_⟩
    -- Current at both readings and gone between them, the pair would have come back.
    by_contra hgone
    refine hreturn x.assignment s₁ moment s' (hw.forward answers) hlower
      (hupper.trans (hw.forward again)) le_rfl ?_ hgone ?_
    · rw [← hw.truthful answers (opening_eq_ok_iff.1 opens).1]
      exact hbefore
    · rw [← hw.truthful again hafter]
      exact hstays hbefore

end Collector

/-! ## The subnet added between the readings -/

namespace Collector.AddedSubnet

/-- The second subnet is added before the last statistic is read. -/
def current (n : Nat) : Finset Assignment := if n ≤ 3 then before.pairs else after.pairs

theorem current_of_le {n : Nat} (h : n ≤ 3) : current n = before.pairs := if_pos h

theorem current_of_lt {n : Nat} (h : 3 < n) : current n = after.pairs := if_neg (by omega)

/-- What is current changes once, and so nothing comes back. -/
theorem neverReturns : NeverReturns current 0 5 := by
  intro pair i j k _ hij hjk _ hi hj
  rcases Nat.lt_or_ge 3 j with hlt | hle
  · rw [current_of_lt hlt] at hj
    rw [current_of_lt (by omega)]
    exact hj
  · rw [current_of_le hle] at hj
    rw [current_of_le (by omega)] at hi
    exact absurd hi hj

theorem handedOut?_statistics : ∀ reply ∈ statistics,
    handedOut? (collector.reading reply) = none := by
  decide +kernel

/-- The only snapshots in the replies are those of the first and the last. -/
theorem reading_replies {n : Nat} {listed : Snapshot}
    (h : collector.reading replies[n]?.join = .ok (.snapshot listed)) :
    (n = 0 ∧ listed = before) ∨ (n = 4 ∧ listed = after) := by
  have hcases : n = 0 ∨ (∃ k, n = k + 1 ∧ k < statistics.length) ∨ n = 4 ∨ replies.length ≤ n := by
    have hreplies : replies.length = 5 := rfl
    have hstatistics : statistics.length = 3 := rfl
    rcases n with _ | k
    · exact .inl rfl
    · by_cases hk : k < 3
      · exact .inr (.inl ⟨k, rfl, by omega⟩)
      · omega
  rcases hcases with rfl | ⟨k, rfl, hk⟩ | rfl | hge
  · change collector.reading first = _ at h
    rw [reading_first] at h
    exact .inl ⟨rfl, (Reading.snapshot.inj (Except.ok.inj h)).symm⟩
  · rw [replies, List.getElem?_cons_succ, List.getElem?_append_left hk,
      List.getElem?_eq_getElem hk, Option.join_some] at h
    have hnone := handedOut?_statistics statistics[k] (List.getElem_mem hk)
    rw [h] at hnone
    exact absurd hnone (by simp [handedOut?])
  · change collector.reading second = _ at h
    rw [reading_second] at h
    exact .inr ⟨rfl, (Reading.snapshot.inj (Except.ok.inj h)).symm⟩
  · rw [List.getElem?_eq_none hge] at h
    exact absurd h (by simp [reading, Reading.ofReply, Reply.response])

theorem follows : (Agent.inTurn replies).world.Follows collector current := by
  constructor
  · intro n command reply n' h
    have : n + 1 = n' := congrArg Prod.snd h
    omega
  · intro n reply n' listed h hlisted
    obtain ⟨rfl, rfl⟩ := Prod.mk.inj h
    rcases reading_replies hlisted with ⟨rfl, rfl⟩ | ⟨rfl, rfl⟩
    · exact (current_of_le (by omega)).symm
    · exact (current_of_lt (by omega)).symm

end Collector.AddedSubnet

namespace Collector

/-- Attribution where a subnet is added between the readings. -/
theorem delivered_current_added_subnet :
    (Agent.inTurn AddedSubnet.replies).world.Follows AddedSubnet.collector AddedSubnet.current ∧
      NeverReturns AddedSubnet.current 0 5 ∧
      ∃ trace, Completes (Agent.inTurn AddedSubnet.replies).world Sink.memory
          AddedSubnet.collector.cycle 0 [] trace (.ok (.drifted AddedSubnet.drift 1 0)) 5
          [AddedSubnet.counted.metric] ∧
        Happening.delivered [AddedSubnet.counted.metric] ∈ trace ∧
        ∃ id moment, AddedSubnet.collector.ComesFrom trace AddedSubnet.counted.metric id moment ∧
          ⟨id, AddedSubnet.counted.metric.cidr⟩ ∈ AddedSubnet.current moment := by
  obtain ⟨trace, hunfolds, hbatch⟩ := AddedSubnet.unfolds
  have h := completes_of_unfolds hunfolds
  exact ⟨AddedSubnet.follows, AddedSubnet.neverReturns, trace, h, hbatch,
    delivered_current AddedSubnet.follows AddedSubnet.neverReturns h hbatch
      (List.mem_singleton_self _)⟩

end Collector

end KeaGauge
