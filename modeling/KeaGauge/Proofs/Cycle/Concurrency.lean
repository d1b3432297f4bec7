import KeaGauge.Proofs.Cycle.Emission
import KeaGauge.Proofs.Cycle.Outstanding
import Mathlib.Logic.Relation
/-!
# Concurrency

How many statistics may be asked for at a time decides in which order an
agent answers, and nothing else. An agent that requests for statistics leave
alone (`World.Steady`) replies to each phase of a cycle what is known
beforehand, so the cycle comes to what it would come to with these replies at
hand (`Collector.withReplies`), and in that there is nothing left that an
order of answers, or a limit, could change (`cycle_concurrency`).
-/

namespace KeaGauge

open Kea (Command Snapshot)
open Net (Family)
open Dialogue (Completes)
open Happening (Outstanding Punctual)
open Scripted

namespace World

variable {σ : Type}

/-- Statistics were asked for, any number of times. -/
def AsksStatistics (w : World σ) (family : Family) : σ → σ → Prop :=
  Relation.ReflTransGen fun s s' =>
    ∃ statistic reply, w s (.statisticGet family statistic) reply s'

/-- **An agent that requests for statistics leave alone.** The reply to one
depends on its name only, and those to the first and to the second
`config-get` on nothing that is asked for in between. -/
structure Steady (w : World σ) (family : Family) (s : σ) (first second : Reply)
    (statistic : String → Reply) : Prop where
  statistics : ∀ s₁ name reply s₂, w s₁ (.statisticGet family name) reply s₂ →
    reply = statistic name
  opening : ∀ reply s₁, w s (.configGet family) reply s₁ → reply = first
  closing : ∀ reply s₁ s₂ again s₃, w s (.configGet family) reply s₁ →
    w.AsksStatistics family s₁ s₂ → w s₂ (.configGet family) again s₃ → again = second

end World

/-! ## What a dialogue passes -/

namespace Happening

variable {σ : Type}

/-- The stages that a trace passes. -/
def stages (trace : List (Happening σ)) : List Stage := Event.stages (events trace)

theorem stages_append (trace more : List (Happening σ)) :
    stages (trace ++ more) = stages trace ++ stages more := by
  rw [stages, events, List.filterMap_append]
  exact List.filterMap_append

theorem stages_noted (notices : List Notice) : stages (notices.map (.noted (σ := σ))) = [] := by
  rw [stages, events, Event.stages, List.filterMap_filterMap, List.filterMap_eq_nil_iff]
  simp [event?]

theorem stages_passed (stage : Stage) (trace : List (Happening σ)) :
    stages (.passed stage :: trace) = stage :: stages trace :=
  rfl

end Happening

namespace Collector

variable {α σ τ : Type} {w : World σ} {sink : Sink τ} {c : Collector} {s s' s₁ s₂ : σ}
variable {t t' : τ} {trace : List (Happening σ)} {outcome : Outcome} {before : Snapshot}
variable {first second : Reply} {statistic : String → Reply}

theorem stages_readHappenings (reply : Reply) (s : σ) :
    Happening.stages (c.readHappenings reply s) = [] := by
  rw [readHappenings, Happening.stages_append, Happening.stages_noted]
  rfl

theorem stages_collectHappenings {asked : List (Happening σ)} {p : Inquiry.Progress}
    (h : (c.inquiry (Request.planned before)).Concludes w s asked p s') :
    Happening.stages (c.collectHappenings before asked p.taken) = [] := by
  have hasked : Happening.stages asked = [] := by
    rw [Happening.stages, h.events_eq, Event.stages, List.filterMap_map,
      List.filterMap_eq_nil_iff]
    simp
  rw [collectHappenings, Happening.stages_append, hasked, Happening.stages_noted]
  rfl

/-! ## A cycle with its replies at hand -/

/-- The same collector with another limit. -/
def withConcurrency (c : Collector) (limit : Nat) : Collector := { c with concurrency := limit }

/-- What a steady agent's replies bring. -/
def collection (c : Collector) (before : Snapshot) (statistic : String → Reply) :
    Except Kea.Error (List Collected) :=
  Request.collectedFrom c.url (Request.planned before)
    (Inquiry.upToFailure c.isFailure
      ((Request.planned before).map fun request => statistic request.statistic))

/-- **The cycle with its replies at hand**: nothing is left to ask. -/
def withReplies (c : Collector) (first second : Reply) (statistic : String → Reply) :
    Dialogue Outcome :=
  match opening (c.reading first) with
  | .error e => .done (.error e)
  | .ok before =>
    .pass .firstReading (match c.collection before statistic with
      | .error e => .done (.error (.kea e))
      | .ok collected => .pass .statistics (c.conclude before collected (c.reading second)))

/-- **What is taken up is known beforehand**, and only statistics are asked
for meanwhile. -/
theorem collectedFrom_eq_collection {asked : List (Happening σ)} {p : Inquiry.Progress}
    (statistics : ∀ s₁ name reply s₂, w s₁ (.statisticGet c.family name) reply s₂ →
      reply = statistic name)
    (h : (c.inquiry (Request.planned before)).Concludes w s asked p s') :
    Request.collectedFrom c.url (Request.planned before) p.taken = c.collection before statistic ∧
      w.AsksStatistics c.family s s' := by
  have hlength : ((Request.planned before).map fun request => statistic request.statistic).length =
      (c.inquiry (Request.planned before)).commands.length := by
    simp [inquiry]
  have reacts : ∀ (place : Nat) (command : Command) (u : σ) (reply : Reply) (u' : σ),
      (c.inquiry (Request.planned before)).commands[place]? = some command →
        w.AsksStatistics c.family s u → w u command reply u' →
          ((Request.planned before).map fun request => statistic request.statistic)[place]? =
            some reply ∧ w.AsksStatistics c.family s u' := by
    intro place command u reply u' hcommand hu answers
    rw [inquiry, List.getElem?_map] at hcommand
    obtain ⟨request, hrequest, rfl⟩ := Option.map_eq_some_iff.1 hcommand
    refine ⟨?_, hu.tail ⟨_, _, answers⟩⟩
    rw [List.getElem?_map, hrequest, statistics _ _ _ _ answers]
    rfl
  obtain ⟨htaken, hasked⟩ := h.taken_eq hlength reacts .refl
  exact ⟨by rw [htaken]; rfl, hasked⟩

/-- **A cycle with a steady agent comes to what it comes to with the replies
at hand.** -/
theorem completes_withReplies (steady : w.Steady c.family s first second statistic)
    (h : Completes w sink c.cycle s t trace outcome s' t') :
    ∃ quiet, Completes w sink (c.withReplies first second statistic) s t quiet outcome s t' ∧
      Happening.stages trace = Happening.stages quiet := by
  unfold withReplies
  cases unfolds_of_completes h with
  | unopened answers fails =>
    rw [← steady.opening _ _ answers, fails]
    exact ⟨[], .refl _, stages_readHappenings ..⟩
  | uncollected answers opens inquired fails =>
    obtain ⟨hcollection, -⟩ := collectedFrom_eq_collection steady.statistics inquired
    rw [← steady.opening _ _ answers, opens]
    simp only [← hcollection, fails]
    refine ⟨_, Dialogue.completes_pass.2 ⟨[], rfl, .refl _⟩, ?_⟩
    rw [Happening.stages_append, stages_readHappenings, Happening.stages_passed,
      stages_collectHappenings inquired]
    rfl
  | concluded answers opens inquired collects again ends =>
    obtain ⟨hcollection, hbetween⟩ := collectedFrom_eq_collection steady.statistics inquired
    rw [steady.closing _ _ _ _ _ answers hbetween again] at ends ⊢
    rw [← steady.opening _ _ answers, opens]
    simp only [← hcollection, collects]
    refine ⟨_, Dialogue.completes_pass.2 ⟨_, rfl, Dialogue.completes_pass.2 ⟨_, rfl,
      completes_of_ending ends⟩⟩, ?_⟩
    simp only [Happening.stages_append, stages_readHappenings, Happening.stages_passed,
      stages_collectHappenings inquired, List.nil_append]

/-! ## What a cycle asks, and when -/

theorem asksNothing_emit {batch : List Metric} {next : Except SinkError Unit → Dialogue α}
    (h : ∀ taken, (next taken).AsksNothing) : (emit batch next).AsksNothing := by
  unfold emit
  split
  · exact h _
  · exact h

/-- After the second reading nothing is asked. -/
theorem asksNothing_conclude {collected : List Collected} (reading : Except Kea.Error Reading) :
    (c.conclude before collected reading).AsksNothing := by
  rcases reading with e | ⟨after⟩ | ⟨result, text⟩
  · trivial
  · rw [conclude]
    split
    · trivial
    · split
      · exact asksNothing_emit fun taken => by cases taken <;> trivial
      · exact asksNothing_emit fun taken => by cases taken <;> trivial
  · trivial

theorem asksNothing_withReplies : (c.withReplies first second statistic).AsksNothing := by
  unfold withReplies
  split
  · trivial
  · change Dialogue.AsksNothing (match c.collection _ statistic with
      | .error e => _
      | .ok collected => _)
    split
    · trivial
    · exact asksNothing_conclude _

theorem patient_read {limit : Nat} {name : String} {next : Except Kea.Error Reading → Dialogue α}
    (h : ∀ reading, (next reading).Patient limit name) : (c.read next).Patient limit name :=
  fun _ => Dialogue.patient_noting.2 (h _)

/-- A reply that is a failure is one of the collection. -/
theorem answersOf_eq_error_of_mem {requests : List Request} {replies : List Reply}
    (hlength : replies.length ≤ requests.length)
    (h : ∃ reply ∈ replies, c.isFailure reply = true) :
    ∃ e, answersOf c.url requests replies = .error e := by
  induction replies generalizing requests with
  | nil => simp at h
  | cons reply replies ih =>
    cases requests with
    | nil => simp at hlength
    | cons request requests =>
      rw [Request.answersOf_cons]
      cases hresponse : reply.response c.url with
      | error e => exact ⟨e, rfl⟩
      | ok response =>
        have hgood : c.isFailure reply = false := isFailure_eq_false_iff.2 ⟨response, hresponse⟩
        have hrest : ∃ r ∈ replies, c.isFailure r = true := by simpa [hgood] using h
        obtain ⟨e, he⟩ := ih (Nat.le_of_succ_le_succ hlength) hrest
        exact ⟨e, by rw [he]; rfl⟩

theorem patient_collect {name : String}
    {next : Except Kea.Error (List Collected) → Dialogue α} (hname : name ≠ "statistic-get")
    (h : ∀ result, (next result).Patient (max 1 c.concurrency) name)
    (herror : ∀ e, (next (.error e)).AsksNothing) :
    (c.collect before next).Patient (max 1 c.concurrency) name := by
  refine ⟨le_rfl, fun command hcommand => ?_, fun replies => ⟨?_, fun hlength hfailure => ?_⟩⟩
  · obtain ⟨request, -, rfl⟩ := List.mem_map.1 hcommand
    exact hname.symm
  · refine Dialogue.patient_noting.2 ?_
    split
    · exact h _
    · exact Dialogue.patient_noting.2 (h _)
  · rw [inquiry, List.length_map] at hlength
    obtain ⟨e, he⟩ := answersOf_eq_error_of_mem hlength hfailure
    refine Dialogue.asksNothing_noting.2 ?_
    rw [he]
    exact herror e

/-- **A cycle asks for the configuration when nothing is unanswered**, and
for no more statistics at a time than it may. -/
theorem patient_cycle : c.cycle.Patient (max 1 c.concurrency) "config-get" := by
  rw [cycle_eq]
  refine patient_read fun reading => ?_
  split
  · trivial
  · refine Dialogue.patient_pass.2 (patient_collect (by decide) (fun result => ?_) fun e => trivial)
    split
    · trivial
    · exact Dialogue.patient_pass.2 (patient_read fun reading =>
        Dialogue.patient_of_asksNothing (asksNothing_conclude reading))

/-! ## What concurrency does not change -/

/-- What the collection of the statistics of a snapshot may bring. -/
def MayCollect (c : Collector) (w : World σ) (sink : Sink τ) (before : Snapshot)
    (result : Except Kea.Error (List Collected)) : Prop :=
  ∃ s t trace s' t', Completes w sink (c.collect before .done) s t trace result s' t'

/-- How a cycle may end: its outcome, what the sink is left with, and the
transitions made. -/
def MayEnd (c : Collector) (w : World σ) (sink : Sink τ) (s : σ) (t : τ) (outcome : Outcome)
    (t' : τ) (transitions : List Transition) : Prop :=
  ∃ trace s', Completes w sink c.cycle s t trace outcome s' t' ∧
    Event.transitions (Happening.events trace) = transitions

theorem eq_collection_of_mayCollect {result : Except Kea.Error (List Collected)}
    (statistics : ∀ s₁ name reply s₂, w s₁ (.statisticGet c.family name) reply s₂ →
      reply = statistic name)
    (h : c.MayCollect w sink before result) : result = c.collection before statistic := by
  obtain ⟨s, t, trace, s', t', hcollect⟩ := h
  obtain ⟨asked, p, s₁, _, inquired, -, hdone⟩ := completes_collect.1 hcollect
  obtain ⟨-, rfl, -, -⟩ := Dialogue.completes_done.1 hdone
  exact (collectedFrom_eq_collection statistics inquired).1

/-- With the replies at hand, cycles do not differ by the limit, so they end
the same. -/
theorem mayEnd_unique {n m : Nat} {outcome₁ outcome₂ : Outcome} {t₁ t₂ : τ}
    {transitions₁ transitions₂ : List Transition}
    (steady : w.Steady c.family s first second statistic)
    (h₁ : (c.withConcurrency n).MayEnd w sink s t outcome₁ t₁ transitions₁)
    (h₂ : (c.withConcurrency m).MayEnd w sink s t outcome₂ t₂ transitions₂) :
    outcome₁ = outcome₂ ∧ t₁ = t₂ ∧ transitions₁ = transitions₂ := by
  obtain ⟨trace₁, s₁, hcompletes₁, rfl⟩ := h₁
  obtain ⟨trace₂, s₂, hcompletes₂, rfl⟩ := h₂
  obtain ⟨quiet₁, hquiet₁, hstages₁⟩ :=
    completes_withReplies (c := c.withConcurrency n) steady hcompletes₁
  obtain ⟨quiet₂, hquiet₂, hstages₂⟩ :=
    completes_withReplies (c := c.withConcurrency m) steady hcompletes₂
  have hsame : (c.withConcurrency n).withReplies first second statistic =
      (c.withConcurrency m).withReplies first second statistic := rfl
  rw [hsame] at hquiet₁
  obtain ⟨rfl, rfl, rfl⟩ := asksNothing_withReplies.determined hquiet₁ hquiet₂
  refine ⟨rfl, rfl, ?_⟩
  have hstages := hstages₁.trans hstages₂.symm
  simp only [Happening.stages] at hstages
  rw [Event.transitions, Event.transitions, hstages]

/-- **Concurrency does not change a cycle.** With an agent that requests for
statistics leave alone, two collectors that differ in how many they may have
unanswered collect the same or fail in the same way, and whole cycles end
with the same outcome, the same in the sink and the same transitions. On the
way no more are unanswered than the limit, and none when the configuration is
asked for. -/
theorem cycle_concurrency {n m : Nat} (hn : 1 ≤ n) (hm : 1 ≤ m)
    (steady : w.Steady c.family s first second statistic) :
    (∀ before result₁ result₂, (c.withConcurrency n).MayCollect w sink before result₁ →
        (c.withConcurrency m).MayCollect w sink before result₂ → result₁ = result₂) ∧
      (∀ outcome₁ t₁ transitions₁ outcome₂ t₂ transitions₂,
        (c.withConcurrency n).MayEnd w sink s t outcome₁ t₁ transitions₁ →
        (c.withConcurrency m).MayEnd w sink s t outcome₂ t₂ transitions₂ →
          outcome₁ = outcome₂ ∧ t₁ = t₂ ∧ transitions₁ = transitions₂) ∧
      ∀ limit, limit = n ∨ limit = m → ∀ trace reached,
        Reaches (Dialogue.Step w sink) ⟨.talking (c.withConcurrency limit).cycle, s, t⟩ trace
          reached →
        (∃ count ≤ limit, Outstanding trace count) ∧ Punctual "config-get" trace := by
  refine ⟨fun before result₁ result₂ h₁ h₂ => ?_, fun _ _ _ _ _ _ h₁ h₂ => ?_,
    fun limit hlimit trace reached h => ?_⟩
  · have hfirst := eq_collection_of_mayCollect (c := c.withConcurrency n) steady.statistics h₁
    have hsecond := eq_collection_of_mayCollect (c := c.withConcurrency m) steady.statistics h₂
    exact hfirst.trans hsecond.symm
  · exact mayEnd_unique steady h₁ h₂
  · have hone : 1 ≤ limit := by omega
    obtain ⟨hunderway, hpunctual⟩ := Dialogue.underway_punctual patient_cycle h
    obtain ⟨count, hle, houtstanding⟩ := hunderway.outstanding_le
    exact ⟨⟨count, hle.trans (max_eq_right hone).le, houtstanding⟩, hpunctual⟩

end Collector

/-! ## A subnet added between the readings, asked about in two ways -/

namespace Collector.AddedSubnet

/-- The reply for a statistic. -/
def statistic (name : String) : Reply :=
  if name = "subnet[7].total-addresses" then
    some (Fixture.statisticAnswer "subnet[7].total-addresses"
      [(256, "2024-05-01 10:00:00.000001")]).text
  else some (Fixture.refusal 3 "no data").text

/-- An agent that replies to requests for statistics by the name, and counts
the readings. -/
def steadyAgent : Agent Nat := fun readings command =>
  match command.arguments.get? "name" with
  | some (.string name) => (statistic name, readings)
  | _ => (if readings = 0 then first else second, readings + 1)

theorem steadyAgent_statisticGet (readings : Nat) (family : Family) (name : String) :
    steadyAgent readings (.statisticGet family name) = (statistic name, readings) :=
  rfl

theorem steady : steadyAgent.world.Steady .v4 0 first second statistic where
  statistics readings name reply _ h :=
    (congrArg Prod.fst ((steadyAgent_statisticGet readings .v4 name).symm.trans h)).symm
  opening _ _ h := (congrArg Prod.fst h).symm
  closing _ s₁ s₂ again s₃ h asks hagain := by
    obtain rfl : 1 = s₁ := congrArg Prod.snd h
    -- the requests for statistics leave the count of readings at one
    have hone : s₂ = 1 := by
      clear hagain
      induction asks with
      | refl => rfl
      | tail _ step ih =>
        obtain ⟨name, reply, hstep⟩ := step
        exact ih ▸ (congrArg Prod.snd hstep).symm
    subst hone
    exact (congrArg Prod.fst hagain).symm

/-- However the statistics are collected, the cycle comes to its end. -/
theorem mayEnd_of_concludes {limit : Nat} {asked : List (Happening Nat)}
    (h : ((collector.withConcurrency limit).inquiry (Request.planned before)).Concludes
      steadyAgent.world 1 asked (.settled statistics) 1) :
    ∃ transitions, (collector.withConcurrency limit).MayEnd steadyAgent.world Sink.memory 0 []
      (.ok (.drifted drift 1 0)) [counted.metric] transitions := by
  have hfirst : steadyAgent.world 0 (.configGet .v4) first 1 := rfl
  have hsecond : steadyAgent.world 1 (.configGet .v4) second 2 := rfl
  have hkept : [counted.metric] =
      (collector.withConcurrency limit).policy.kept drift [counted] := kept_eq_counted
  have haccepted : Sink.memory.take [] [counted.metric] = (.ok (), [counted.metric]) := rfl
  have ends := @Ending.drifted Nat _ _ _ [counted] _ _ _ _ _ _ rfl drift?_eq hkept haccepted
  have hreading : .ok (.snapshot after) = (collector.withConcurrency limit).reading second :=
    reading_second.symm
  rw [hreading] at ends
  exact ⟨_, _, _, completes_of_unfolds (.concluded hfirst
    (opening_eq_ok_iff.2 ⟨reading_first, rfl⟩) h collectedFrom_eq hsecond ends), rfl⟩

/-- One after the other. -/
theorem concludes_inOrder : ∃ asked,
    ((collector.withConcurrency 1).inquiry (Request.planned before)).Concludes
      steadyAgent.world 1 asked (.settled statistics) 1 := by
  obtain ⟨asked, h, -⟩ := Inquiry.concludes_answers steadyAgent
    ((collector.withConcurrency 1).inquiry (Request.planned before)) 1
  have hanswers : ((collector.withConcurrency 1).inquiry (Request.planned before)).answers
      steadyAgent 1 = (statistics, 1) := by
    decide +kernel
  rw [hanswers] at h
  exact ⟨asked, h⟩

/-- All sent at once, and answered the last first. -/
theorem concludes_reversed : ∃ asked,
    ((collector.withConcurrency 4).inquiry (Request.planned before)).Concludes
      steadyAgent.world 1 asked (.settled statistics) 1 := by
  have hgood : ∀ reply ∈ statistics, collector.isFailure reply = false := by decide +kernel
  have on : ∀ (replies : List (Option Reply)) (count : Nat), count < 3 →
      ((collector.withConcurrency 4).inquiry (Request.planned before)).GoesOn
        ⟨replies, statistics.take count⟩ := fun replies count hcount =>
    ⟨(List.length_take_le _ _).trans_lt hcount,
      fun reply hreply => hgood reply (List.mem_of_mem_take hreply)⟩
  refine ⟨_, .next (.send (on [] 0 (by decide)) rfl (by decide))
    (.next (.send (on [none] 0 (by decide)) rfl (by decide))
    (.next (.send (on [none, none] 0 (by decide)) rfl (by decide))
    (.next (@Inquiry.Step.answer _ _ _ _ _ _ 2 _ _ (on _ 0 (by decide)) rfl rfl rfl)
    (.next (@Inquiry.Step.answer _ _ _ _ _ _ 1 _ _ (on _ 0 (by decide)) rfl rfl rfl)
    (.next (@Inquiry.Step.answer _ _ _ _ _ _ 0 _ _ (on _ 0 (by decide)) rfl rfl rfl)
    (.next (.take (on _ 0 (by decide)) rfl rfl)
    (.next (.take (on _ 1 (by decide)) rfl rfl)
    (.single (.take (on _ 2 (by decide)) rfl rfl))))))))), fun h => ?_⟩
  exact absurd h.1 (by decide)

end Collector.AddedSubnet

namespace Collector

/-- One request at a time, or all at once and answered the last first. -/
theorem cycle_concurrency_added_subnet :
    AddedSubnet.steadyAgent.world.Steady .v4 0 AddedSubnet.first AddedSubnet.second
        AddedSubnet.statistic ∧
      ∃ transitions₁ transitions₂,
        (AddedSubnet.collector.withConcurrency 1).MayEnd AddedSubnet.steadyAgent.world Sink.memory
          0 [] (.ok (.drifted AddedSubnet.drift 1 0)) [AddedSubnet.counted.metric] transitions₁ ∧
        (AddedSubnet.collector.withConcurrency 4).MayEnd AddedSubnet.steadyAgent.world Sink.memory
          0 [] (.ok (.drifted AddedSubnet.drift 1 0)) [AddedSubnet.counted.metric] transitions₂ ∧
        transitions₁ = transitions₂ := by
  obtain ⟨asked₁, hinOrder⟩ := AddedSubnet.concludes_inOrder
  obtain ⟨asked₂, hreversed⟩ := AddedSubnet.concludes_reversed
  obtain ⟨transitions₁, h₁⟩ := AddedSubnet.mayEnd_of_concludes hinOrder
  obtain ⟨transitions₂, h₂⟩ := AddedSubnet.mayEnd_of_concludes hreversed
  have hsame := (cycle_concurrency (c := AddedSubnet.collector) (n := 1) (m := 4) (by decide)
    (by decide) AddedSubnet.steady).2.1 _ _ _ _ _ _ h₁ h₂
  exact ⟨AddedSubnet.steady, transitions₁, transitions₂, h₁, h₂, hsame.2.2⟩

end Collector

end KeaGauge
