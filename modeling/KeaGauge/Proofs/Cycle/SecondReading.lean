import KeaGauge.Proofs.Cycle.Path
import KeaGauge.Proofs.Kea.Alike
/-!
# What counts of the second reading

Of a second reply to `config-get` that is a success, only the pairs count that
its document assigns. An agent whose second reply is amended
(`World.amending`), so that the document is another one that assigns alike,
leads a cycle through the same executions: each differs from its counterpart
in the second reply and in what is reported of the document, and in nothing
else (`Collector.Retells`). The outcome, the sink, the commands and the
transitions are the same (`cycle_second_reading`).
-/

namespace KeaGauge

open Kea (Command Snapshot AssignAlike)
open Dialogue (Completes)
open Scripted

/-- Replies that are both successes, with documents that assign alike. -/
def Reply.Alike (url : String) (reply reply' : Reply) : Prop :=
  ∃ r r' : Kea.Response, reply.response url = .ok r ∧ reply'.response url = .ok r' ∧
    r.result = 0 ∧ r'.result = 0 ∧ AssignAlike r.arguments r'.arguments

/-- **The same agent with its second reply to `config-get` amended.** It counts
the replies to this command. -/
def World.amending {σ : Type} (w : World σ) (amend : σ → Reply → Reply) : World (σ × Nat) :=
  fun x command reply y => ∃ original, w x.1 command original y.1 ∧
    if command.name = "config-get" then
      reply = (if x.2 = 1 then amend y.1 original else original) ∧ y.2 = x.2 + 1
    else reply = original ∧ y.2 = x.2

/-! ## Happenings with another state -/

namespace Happening

variable {σ ρ : Type}

/-- The same happening, with the agent's state seen through a function. -/
def through (f : σ → ρ) : Happening σ → Happening ρ
  | sent place command => sent place command
  | answered place command reply state => answered place command reply (f state)
  | taken command reply => taken command reply
  | delivered batch => delivered batch
  | noted notice => noted notice
  | passed stage => passed stage

@[simp]
theorem through_noted (f : σ → ρ) (notices : List Notice) :
    (notices.map noted).map (through f) = notices.map noted := by
  rw [List.map_map]
  rfl

@[simp]
theorem through_handed (f : σ → ρ) (batch : List Metric) :
    (handed batch).map (through f) = handed batch := by
  unfold handed
  split <;> rfl

/-- What is seen of a trace is not the agent's state. -/
theorem events_through (f : σ → ρ) (trace : List (Happening σ)) :
    events (trace.map (through f)) = events trace := by
  rw [events, events, List.filterMap_map]
  congr 1
  funext x
  cases x <;> rfl

theorem through_through {υ : Type} (f : σ → ρ) (g : ρ → υ) (trace : List (Happening σ)) :
    (trace.map (through f)).map (through g) = trace.map (through (g ∘ f)) := by
  rw [List.map_map]
  congr 1
  funext x
  cases x <;> rfl

theorem through_id (trace : List (Happening σ)) : trace.map (through id) = trace := by
  have hid : through (id : σ → σ) = id := by
    funext x
    cases x <;> rfl
  rw [hid, List.map_id]

/-- What was paired with a number and then seen without it is as before. -/
theorem through_fst_pair (n : Nat) (trace : List (Happening σ)) :
    (trace.map (through fun s => (s, n))).map (through Prod.fst) = trace := by
  rw [through_through]
  exact through_id trace

end Happening

/-! ## The amended agent -/

namespace World

variable {σ : Type} {w : World σ} {amend : σ → Reply → Reply} {family : Net.Family}
variable {s s' : σ} {n m : Nat} {reply : Reply}

theorem amending_configGet_iff :
    w.amending amend (s, n) (.configGet family) reply (s', m) ↔
      ∃ original, w s (.configGet family) original s' ∧
        reply = (if n = 1 then amend s' original else original) ∧ m = n + 1 := by
  rfl

/-- Other commands are answered as before. -/
theorem amending_other_iff {command : Command} (hname : command.name ≠ "config-get") :
    w.amending amend (s, n) command reply (s', m) ↔ w s command reply s' ∧ m = n := by
  simp only [amending, if_neg hname]
  constructor
  · rintro ⟨original, answers, rfl, rfl⟩
    exact ⟨answers, rfl⟩
  · rintro ⟨answers, rfl⟩
    exact ⟨reply, answers, rfl, rfl⟩

end World

namespace Inquiry

variable {σ : Type} {w : World σ} {amend : σ → Reply → Reply} {q : Inquiry} {s s' : σ} {n m : Nat}
variable {p p' : Progress} {trace : List (Happening σ)} {retold : List (Happening (σ × Nat))}

/-- **A step of an inquiry for anything else** is one with the amended agent
too, and the other way round. -/
theorem step_amending_iff (hq : ∀ command ∈ q.commands, command.name ≠ "config-get") :
    q.Step (w.amending amend) (p, (s, n)) retold (p', (s', m)) ↔
      m = n ∧ ∃ trace, retold = trace.map (.through fun s => (s, n)) ∧
        q.Step w (p, s) trace (p', s') := by
  constructor
  · intro h
    cases h with
    | send on next room => exact ⟨rfl, _, rfl, .send on next room⟩
    | answer on asked waits answers =>
      obtain ⟨horiginal, rfl⟩ :=
        (World.amending_other_iff (hq _ (List.mem_of_getElem? asked))).1 answers
      exact ⟨rfl, [.answered _ _ _ s'], rfl, .answer on asked waits horiginal⟩
    | take on asked came => exact ⟨rfl, _, rfl, .take on asked came⟩
  · rintro ⟨rfl, trace, rfl, h⟩
    cases h with
    | send on next room => exact .send on next room
    | answer on asked waits answers =>
      exact .answer on asked waits
        ((World.amending_other_iff (hq _ (List.mem_of_getElem? asked))).2 ⟨answers, rfl⟩)
    | take on asked came => exact .take on asked came

theorem reaches_of_amending (hq : ∀ command ∈ q.commands, command.name ≠ "config-get")
    {a b : Progress × σ × Nat} (h : Reaches (q.Step (w.amending amend)) a retold b) :
    b.2.2 = a.2.2 ∧ ∃ trace, retold = trace.map (.through fun s => (s, a.2.2)) ∧
      Reaches (q.Step w) (a.1, a.2.1) trace (b.1, b.2.1) := by
  induction h with
  | refl a => exact ⟨rfl, [], rfl, .refl _⟩
  | next head _ ih =>
    obtain ⟨hcount, first, rfl, step⟩ := (step_amending_iff hq).1 head
    obtain ⟨hrest, rest, rfl, reaches⟩ := ih
    refine ⟨hrest.trans hcount, first ++ rest, ?_, .next step reaches⟩
    rw [List.map_append, hcount]

theorem reaches_amending (hq : ∀ command ∈ q.commands, command.name ≠ "config-get") (n : Nat)
    {a b : Progress × σ} (h : Reaches (q.Step w) a trace b) :
    Reaches (q.Step (w.amending amend)) (a.1, (a.2, n)) (trace.map (.through fun s => (s, n)))
      (b.1, (b.2, n)) := by
  induction h with
  | refl => exact .refl _
  | next head _ ih =>
    rw [List.map_append]
    exact .next ((step_amending_iff hq).2 ⟨rfl, _, rfl, head⟩) ih

/-- **Whole inquiries** for anything else go as with the agent itself. -/
theorem concludes_amending_iff (hq : ∀ command ∈ q.commands, command.name ≠ "config-get") :
    q.Concludes (w.amending amend) (s, n) retold p (s', m) ↔
      m = n ∧ ∃ trace, retold = trace.map (.through fun s => (s, n)) ∧
        q.Concludes w s trace p s' := by
  constructor
  · rintro ⟨steps, ended⟩
    obtain ⟨hcount, trace, htrace, reaches⟩ := reaches_of_amending hq steps
    exact ⟨hcount, trace, htrace, reaches, ended⟩
  · rintro ⟨rfl, trace, rfl, steps, ended⟩
    exact ⟨reaches_amending hq m steps, ended⟩

end Inquiry

namespace Collector

variable {σ ρ τ : Type} {w : World σ} {sink : Sink τ} {c : Collector} {s s' : σ} {t t' : τ}
variable {trace rest : List (Happening σ)} {outcome : Outcome} {before : Snapshot}
variable {collected : List Collected} {reply reply' : Reply} {amend : σ → Reply → Reply}

/-! ## Endings by the pairs -/

/-- Readings that a cycle cannot tell apart: the same error, or snapshots with
the same pairs. -/
inductive ReadingsAlike : Except Kea.Error Reading → Except Kea.Error Reading → Prop where
  | error (e : Kea.Error) : ReadingsAlike (.error e) (.error e)
  | snapshots {after after' : Snapshot} (pairs : after.pairs = after'.pairs) :
      ReadingsAlike (.ok (.snapshot after)) (.ok (.snapshot after'))

theorem ReadingsAlike.symm {reading reading' : Except Kea.Error Reading}
    (h : ReadingsAlike reading reading') : ReadingsAlike reading' reading := by
  cases h with
  | error e => exact .error e
  | snapshots pairs => exact .snapshots pairs.symm

/-- Alike replies make alike readings: a document for another family is
refused for its family, which both have. -/
theorem readingsAlike_of_alike (h : Reply.Alike c.url reply reply') :
    ReadingsAlike (c.reading reply) (c.reading reply') := by
  obtain ⟨r, r', hresponse, hresponse', hresult, hresult', halike⟩ := h
  obtain ⟨listed, notices, hlisted⟩ := halike.accepted
  obtain ⟨listed', notices', hlisted'⟩ := halike.accepted'
  obtain ⟨hfamily, hpairs⟩ := (Kea.assignAlike_iff hlisted hlisted').1 halike
  by_cases hours : listed.family = c.family
  · have hours' : listed'.family = c.family := hfamily.symm.trans hours
    rw [reading_eq_snapshot_iff.2 ⟨r, notices, hresponse, hresult, hlisted, hours⟩,
      reading_eq_snapshot_iff.2 ⟨r', notices', hresponse', hresult', hlisted', hours'⟩]
    exact .snapshots hpairs
  · have hother : ∀ (x : Reply) (response : Kea.Response) (s : Snapshot) (ns : List Notice),
        x.response c.url = .ok response → response.result = 0 →
        Snapshot.ofObject response.arguments = .ok (s, ns) → s.family = listed.family →
          c.reading x = .error (.config (.otherFamily c.family listed.family)) := by
      intro x response s ns hx hsuccess hs hsame
      rw [reading, Reading.ofReply, hx]
      simp only [Reading.ofResponse, if_pos (Request.isSuccess_iff.2 hsuccess), hs, hsame,
        if_neg hours]
    rw [hother reply r listed notices hresponse hresult hlisted rfl,
      hother reply' r' listed' notices' hresponse' hresult' hlisted' hfamily.symm]
    exact .error _

/-- Replies that are read as snapshots with the same pairs are alike. -/
theorem alike_of_pairs_eq {listed listed' : Snapshot}
    (hreading : c.reading reply = .ok (.snapshot listed))
    (hreading' : c.reading reply' = .ok (.snapshot listed'))
    (pairs : listed.pairs = listed'.pairs) : Reply.Alike c.url reply reply' := by
  obtain ⟨r, notices, hresponse, hresult, hlisted, hfamily⟩ := reading_eq_snapshot_iff.1 hreading
  obtain ⟨r', notices', hresponse', hresult', hlisted', hfamily'⟩ :=
    reading_eq_snapshot_iff.1 hreading'
  exact ⟨r, r', hresponse, hresponse', hresult, hresult',
    (Kea.assignAlike_iff hlisted hlisted').2 ⟨hfamily.trans hfamily'.symm, pairs⟩⟩

/-- **A cycle ends alike** after readings that are alike. -/
theorem Ending.congr {reading reading' : Except Kea.Error Reading}
    (h : c.Ending before collected sink t reading rest outcome t')
    (halike : ReadingsAlike reading reading') :
    c.Ending before collected sink t reading' rest outcome t' := by
  cases halike with
  | error e => exact h
  | @snapshots after after' pairs =>
    have hempty := Snapshot.isEmpty_congr pairs
    have hdrift : before.drift? after = before.drift? after' := Snapshot.drift?_congr pairs
    cases h with
    | noSubnets empty => exact .noSubnets (hempty ▸ empty)
    | consistent nonempty same all accepted =>
      exact .consistent (hempty ▸ nonempty) (hdrift ▸ same) all accepted
    | consistentLost nonempty same all lost =>
      exact .consistentLost (hempty ▸ nonempty) (hdrift ▸ same) all lost
    | drifted nonempty differs kept accepted =>
      exact .drifted (hempty ▸ nonempty) (hdrift ▸ differs) kept accepted
    | driftedLost nonempty differs kept lost =>
      exact .driftedLost (hempty ▸ nonempty) (hdrift ▸ differs) kept lost

/-- In an ending the agent has no part. -/
theorem Ending.through {reading : Except Kea.Error Reading} (f : σ → ρ)
    (h : c.Ending before collected sink t reading rest outcome t') :
    c.Ending before collected sink t reading (rest.map (.through f)) outcome t' := by
  cases h with
  | unread e => exact .unread e
  | refused result text => exact .refused result text
  | noSubnets empty => exact .noSubnets empty
  | consistent nonempty same all accepted =>
    simpa [Happening.through] using Ending.consistent nonempty same all accepted
  | consistentLost nonempty same all lost =>
    simpa [Happening.through] using Ending.consistentLost nonempty same all lost
  | drifted nonempty differs kept accepted =>
    simpa [Happening.through] using Ending.drifted nonempty differs kept accepted
  | driftedLost nonempty differs kept lost =>
    simpa [Happening.through] using Ending.driftedLost nonempty differs kept lost

theorem through_readHappenings (f : σ → ρ) (reply : Reply) (s : σ) :
    (c.readHappenings reply s).map (.through f) = c.readHappenings reply (f s) := by
  rw [readHappenings, List.map_append, Happening.through_noted]
  rfl

theorem through_collectHappenings (f : σ → ρ) (asked : List (Happening σ))
    (taken : List Reply) :
    (c.collectHappenings before asked taken).map (.through f) =
      c.collectHappenings before (asked.map (.through f)) taken := by
  rw [collectHappenings, List.map_append, Happening.through_noted]
  rfl

theorem through_concluded (f : σ → ρ) (first second : Reply) (s₁ s₃ : σ)
    (asked rest : List (Happening σ)) (taken : List Reply) :
    (c.readHappenings first s₁ ++ .passed .firstReading ::
        (c.collectHappenings before asked taken ++ .passed .statistics ::
          (c.readHappenings second s₃ ++ rest))).map (.through f) =
      c.readHappenings first (f s₁) ++ .passed .firstReading ::
        (c.collectHappenings before (asked.map (.through f)) taken ++ .passed .statistics ::
          (c.readHappenings second (f s₃) ++ rest.map (.through f))) := by
  simp only [List.map_append, List.map_cons, through_readHappenings, through_collectHappenings,
    Happening.through]

theorem name_ne_of_mem_inquiry {command : Command}
    (h : command ∈ (c.inquiry (Request.planned before)).commands) :
    command.name ≠ "config-get" := by
  obtain ⟨request, -, rfl⟩ := List.mem_map.1 h
  have hname : "statistic-get" ≠ "config-get" := by decide
  exact hname

/-! ## Executions with another second reply -/

/-- **Two traces that differ in the second reading only**: in the reply, which
the second trace has amended, and in what is reported of it. A cycle without a
second reading has the same trace. -/
inductive Retells (c : Collector) (amend : σ → Reply → Reply) :
    List (Happening σ) → List (Happening σ) → Prop where
  | same {trace : List (Happening σ)}
      (unread : (Happening.repliesTo "config-get" trace).length ≤ 1) : Retells c amend trace trace
  | amended {earlier later : List (Happening σ)} {second : Reply} {s : σ}
      (once : (Happening.repliesTo "config-get" earlier).length = 1) :
      Retells c amend (earlier ++ (c.readHappenings second s ++ later))
        (earlier ++ (c.readHappenings (amend s second) s ++ later))

/-- The commands asked and the batches handed over are the same. -/
theorem Retells.calls_eq {retold : List (Happening σ)} (h : c.Retells amend trace retold) :
    Happening.calls retold = Happening.calls trace := by
  cases h with
  | same _ => rfl
  | amended _ => simp only [Happening.calls_append, calls_readHappenings]

theorem Retells.transitions_eq {retold : List (Happening σ)} (h : c.Retells amend trace retold) :
    Event.transitions (Happening.events retold) = Event.transitions (Happening.events trace) := by
  have hstages : Happening.stages retold = Happening.stages trace := by
    cases h with
    | same _ => rfl
    | amended _ => simp only [Happening.stages_append, stages_readHappenings]
  simp only [Happening.stages] at hstages
  rw [Event.transitions, Event.transitions, hstages]

/-- So they are where one of the traces is that of an amended agent. -/
theorem Retells.observed_eq {retold : List (Happening (σ × Nat))}
    (h : c.Retells amend trace (retold.map (.through Prod.fst))) :
    Happening.calls retold = Happening.calls trace ∧
      Event.transitions (Happening.events retold) =
        Event.transitions (Happening.events trace) := by
  have hcalls := h.calls_eq
  have htransitions := h.transitions_eq
  rw [Happening.calls, Happening.events_through] at hcalls
  rw [Happening.events_through] at htransitions
  exact ⟨hcalls, htransitions⟩

section Executions

variable {first second : Reply} {s₁ s₂ s₃ : σ} {asked : List (Happening σ)}
variable {p : Inquiry.Progress} {retold : List (Happening (σ × Nat))} {m : Nat}

theorem retells_unopened : c.Retells amend (c.readHappenings first s) (c.readHappenings first s) :=
  .same (by simp [repliesTo_readHappenings])

theorem retells_uncollected
    (h : (c.inquiry (Request.planned before)).Concludes w s₁ asked p s₂) :
    c.Retells amend
      (c.readHappenings first s₁ ++ .passed .firstReading ::
        c.collectHappenings before asked p.taken)
      (c.readHappenings first s₁ ++ .passed .firstReading ::
        c.collectHappenings before asked p.taken) := by
  refine .same ?_
  simp [Happening.repliesTo_append, Happening.repliesTo_passed, repliesTo_readHappenings,
    repliesTo_collectHappenings h]

theorem retells_concluded
    (h : (c.inquiry (Request.planned before)).Concludes w s₁ asked p s₂) :
    c.Retells amend
      (c.readHappenings first s₁ ++ .passed .firstReading ::
        (c.collectHappenings before asked p.taken ++ .passed .statistics ::
          (c.readHappenings second s₃ ++ rest)))
      (c.readHappenings first s₁ ++ .passed .firstReading ::
        (c.collectHappenings before asked p.taken ++ .passed .statistics ::
          (c.readHappenings (amend s₃ second) s₃ ++ rest))) := by
  have honce : (Happening.repliesTo "config-get" (c.readHappenings first s₁ ++
      .passed .firstReading :: (c.collectHappenings before asked p.taken ++
        [.passed .statistics]))).length = 1 := by
    have hnone : Happening.repliesTo (σ := σ) "config-get" [] = [] := rfl
    simp [Happening.repliesTo_append, Happening.repliesTo_passed, repliesTo_readHappenings,
      repliesTo_collectHappenings h, hnone]
  have hamended : c.Retells amend (_ ++ (c.readHappenings second s₃ ++ rest))
      (_ ++ (c.readHappenings (amend s₃ second) s₃ ++ rest)) := .amended honce
  simpa only [List.append_assoc, List.cons_append, List.nil_append] using hamended

/-- **An execution has its counterpart** with the amended agent. -/
theorem unfolds_amending
    (hamend : ∀ s reply, amend s reply = reply ∨ Reply.Alike c.url reply (amend s reply))
    (h : c.Unfolds w sink s t trace outcome s' t') :
    ∃ retold n, c.Unfolds (w.amending amend) sink (s, 0) t retold outcome (s', n) t' ∧
      c.Retells amend trace (retold.map (.through Prod.fst)) := by
  have hfirst : ∀ reply s₁, w s (.configGet c.family) reply s₁ →
      w.amending amend (s, 0) (.configGet c.family) reply (s₁, 1) := fun reply s₁ answers =>
    World.amending_configGet_iff.2 ⟨reply, answers, rfl, rfl⟩
  have hinquiry : ∀ {before s₁ asked p s₂},
      (c.inquiry (Request.planned before)).Concludes w s₁ asked p s₂ →
        (c.inquiry (Request.planned before)).Concludes (w.amending amend) (s₁, 1)
          (asked.map (.through fun s => (s, 1))) p (s₂, 1) := fun inquired =>
    (Inquiry.concludes_amending_iff fun _ => name_ne_of_mem_inquiry).2 ⟨rfl, _, rfl, inquired⟩
  cases h with
  | unopened answers fails =>
    refine ⟨_, 1, .unopened (hfirst _ _ answers) fails, ?_⟩
    rw [through_readHappenings]
    exact retells_unopened
  | uncollected answers opens inquired fails =>
    refine ⟨_, 1, .uncollected (hfirst _ _ answers) opens (hinquiry inquired) fails, ?_⟩
    rw [List.map_append, List.map_cons, through_readHappenings, through_collectHappenings,
      Happening.through_fst_pair]
    exact retells_uncollected inquired
  | @concluded first second s₁ s₂ _ before asked rest p collected _ _ answers opens inquired
      collects again ends =>
    have hsecond : w.amending amend (s₂, 1) (.configGet c.family) (amend s' second) (s', 2) :=
      World.amending_configGet_iff.2 ⟨second, again, rfl, rfl⟩
    have hends :
        c.Ending before collected sink t (c.reading (amend s' second)) rest outcome t' := by
      rcases hamend s' second with heq | halike
      · rwa [heq]
      · exact ends.congr (readingsAlike_of_alike halike)
    refine ⟨_, 2, .concluded (hfirst _ _ answers) opens (hinquiry inquired) collects hsecond
      (hends.through fun s => (s, 2)), ?_⟩
    rw [through_concluded, Happening.through_fst_pair, Happening.through_fst_pair]
    exact retells_concluded inquired

/-- **And the amended agent leads to no other executions.** -/
theorem unfolds_of_amending
    (hamend : ∀ s reply, amend s reply = reply ∨ Reply.Alike c.url reply (amend s reply))
    (h : c.Unfolds (w.amending amend) sink (s, 0) t retold outcome (s', m) t') :
    ∃ trace, c.Unfolds w sink s t trace outcome s' t' ∧
      c.Retells amend trace (retold.map (.through Prod.fst)) := by
  have hfirst : ∀ reply s₁ n, w.amending amend (s, 0) (.configGet c.family) reply (s₁, n) →
      w s (.configGet c.family) reply s₁ ∧ n = 1 := by
    intro reply s₁ n answers
    obtain ⟨original, horiginal, rfl, rfl⟩ := World.amending_configGet_iff.1 answers
    exact ⟨horiginal, rfl⟩
  have hinquiry : ∀ {before s₁ asked p s₂ n},
      (c.inquiry (Request.planned before)).Concludes (w.amending amend) (s₁, 1) asked p (s₂, n) →
        n = 1 ∧ ∃ original, asked = original.map (.through fun s => (s, 1)) ∧
          (c.inquiry (Request.planned before)).Concludes w s₁ original p s₂ := fun inquired =>
    (Inquiry.concludes_amending_iff fun _ => name_ne_of_mem_inquiry).1 inquired
  cases h with
  | unopened answers fails =>
    obtain ⟨horiginal, rfl⟩ := hfirst _ _ _ answers
    refine ⟨_, .unopened horiginal fails, ?_⟩
    rw [through_readHappenings]
    exact retells_unopened
  | @uncollected _ s₁ _ _ _ _ _ answers opens inquired fails =>
    obtain ⟨horiginal, hcount⟩ := hfirst _ s₁.1 s₁.2 answers
    obtain ⟨s₁, n⟩ := s₁
    obtain rfl : n = 1 := hcount
    obtain ⟨rfl, asked, rfl, hinquired⟩ := hinquiry inquired
    refine ⟨_, .uncollected horiginal opens hinquired fails, ?_⟩
    rw [List.map_append, List.map_cons, through_readHappenings, through_collectHappenings,
      Happening.through_fst_pair]
    exact retells_uncollected hinquired
  | @concluded first second s₁ s₂ _ before asked rest p collected _ _ answers opens inquired
      collects again ends =>
    obtain ⟨horiginal, hcount⟩ := hfirst _ s₁.1 s₁.2 answers
    obtain ⟨s₁, n⟩ := s₁
    obtain rfl : n = 1 := hcount
    obtain ⟨s₂, n⟩ := s₂
    obtain ⟨rfl, asked, rfl, hinquired⟩ := hinquiry inquired
    obtain ⟨original, hagain, hsecond, rfl⟩ := World.amending_configGet_iff.1 again
    obtain rfl : second = amend s' original := hsecond
    have hends : c.Ending before collected sink t (c.reading original) rest outcome t' := by
      rcases hamend s' original with heq | halike
      · rwa [heq] at ends
      · exact ends.congr (readingsAlike_of_alike halike).symm
    refine ⟨_, .concluded horiginal opens hinquired collects hagain (hends.through Prod.fst), ?_⟩
    rw [through_concluded, Happening.through_fst_pair]
    exact retells_concluded hinquired

/-- After a second reading of the same pairs no drift is reported. -/
theorem Ending.consistent_of_pairs_eq {after : Snapshot} (pairs : before.pairs = after.pairs)
    (h : c.Ending before collected sink t (.ok (.snapshot after)) rest outcome t') :
    (∀ drift emitted suppressed, outcome ≠ .ok (.drifted drift emitted suppressed)) ∧
      .inconsistent ∉ Happening.stages rest := by
  have hnone := Snapshot.drift?_eq_none_iff.2 pairs
  cases h with
  | noSubnets _ => exact ⟨by simp, List.not_mem_nil⟩
  | consistent _ _ _ _ =>
    simp [Happening.stages_passed, stages_handed_noted]
  | consistentLost _ _ _ _ => simp [Happening.stages_passed, stages_handed]
  | drifted _ differs _ _ =>
    rw [hnone] at differs
    exact absurd differs (by simp)
  | driftedLost _ differs _ _ =>
    rw [hnone] at differs
    exact absurd differs (by simp)

/-- **No drift between documents that assign alike.** -/
theorem Unfolds.consistent_of_alike (h : c.Unfolds w sink s t trace outcome s' t')
    (hreplies : Happening.repliesTo "config-get" trace = [first, second])
    (halike : Reply.Alike c.url first second) :
    (∀ drift emitted suppressed, outcome ≠ .ok (.drifted drift emitted suppressed)) ∧
      .inconsistent ∉ Happening.stages trace := by
  cases h with
  | unopened _ _ => simp [repliesTo_readHappenings] at hreplies
  | uncollected _ _ inquired _ =>
    simp [Happening.repliesTo_append, Happening.repliesTo_passed, repliesTo_readHappenings,
      repliesTo_collectHappenings inquired] at hreplies
  | @concluded opener closer _ _ _ before _ _ _ _ _ _ _ opens inquired _ _ ends =>
    obtain ⟨rfl, rfl⟩ : opener = first ∧ closer = second := by
      simpa [Happening.repliesTo_append, Happening.repliesTo_passed, repliesTo_readHappenings,
        repliesTo_collectHappenings inquired, repliesTo_ending ends] using hreplies
    have hreadings := readingsAlike_of_alike halike
    rw [(opening_eq_ok_iff.1 opens).1] at hreadings
    generalize c.reading closer = reading at hreadings ends
    cases hreadings with
    | snapshots pairs =>
      obtain ⟨houtcome, hstages⟩ := ends.consistent_of_pairs_eq pairs
      refine ⟨houtcome, ?_⟩
      simpa [Happening.stages_append, stages_readHappenings, Happening.stages_passed,
        stages_collectHappenings inquired] using hstages

end Executions

/-- **Only the pairs of the second reading count.** Whatever the agent, the
policy and the sink, let the second reply to `config-get`, where it is a
success, have its document replaced by another one that assigns alike. Then
each execution has a counterpart that differs in this reply only and in what
is reported of its document, with the same outcome and the same in the sink,
and there are no other executions. In particular, two replies with documents
that assign alike are never taken for a drift. -/
theorem cycle_second_reading
    (hamend : ∀ s reply, amend s reply = reply ∨ Reply.Alike c.url reply (amend s reply)) :
    (∀ trace outcome s' t', Completes w sink c.cycle s t trace outcome s' t' →
      ∃ retold n, Completes (w.amending amend) sink c.cycle (s, 0) t retold outcome (s', n) t' ∧
        c.Retells amend trace (retold.map (.through Prod.fst)) ∧
        Happening.calls retold = Happening.calls trace ∧
        Event.transitions (Happening.events retold) =
          Event.transitions (Happening.events trace)) ∧
    (∀ retold outcome s' n t',
      Completes (w.amending amend) sink c.cycle (s, 0) t retold outcome (s', n) t' →
      ∃ trace, Completes w sink c.cycle s t trace outcome s' t' ∧
        c.Retells amend trace (retold.map (.through Prod.fst)) ∧
        Happening.calls retold = Happening.calls trace ∧
        Event.transitions (Happening.events retold) =
          Event.transitions (Happening.events trace)) ∧
    ∀ trace outcome s' t', Completes w sink c.cycle s t trace outcome s' t' →
      ∀ first second, Happening.repliesTo "config-get" trace = [first, second] →
        Reply.Alike c.url first second →
          (∀ drift emitted suppressed, outcome ≠ .ok (.drifted drift emitted suppressed)) ∧
            .inconsistent ∉ Happening.stages trace := by
  refine ⟨fun trace outcome s' t' h => ?_, fun retold outcome s' n t' h => ?_,
    fun trace outcome s' t' h first second hreplies halike => ?_⟩
  · obtain ⟨retold, n, hretold, hretells⟩ := unfolds_amending hamend (unfolds_of_completes h)
    exact ⟨retold, n, completes_of_unfolds hretold, hretells, hretells.observed_eq⟩
  · obtain ⟨trace, htrace, hretells⟩ := unfolds_of_amending hamend (unfolds_of_completes h)
    exact ⟨trace, completes_of_unfolds htrace, hretells, hretells.observed_eq⟩
  · exact (unfolds_of_completes h).consistent_of_alike hreplies halike

namespace AddedSubnet

/-- The second reply with another document: the subnets are in another order,
one of them in a shared network and one twice, with a pool, beside an entry
that is left out and a hash. -/
def rearranged : Reply :=
  some (Fixture.configAnswer (.ofMembers [("hash", .string "0815"),
    ("Dhcp4", .ofMembers
      [("subnet4", .list [.ofMembers [("subnet", .string "10.0.0.0/8")],
          Fixture.subnet 7 "198.51.100.0/24",
          .ofMembers [("id", .ofNat 7), ("subnet", .string " 198.51.100.0/24"),
            ("pools", .list [.ofMembers [("pool", .string "198.51.100.10 - 198.51.100.20")]])]]),
        ("shared-networks",
          .list [Fixture.network .v4 0 [Fixture.subnet 8 "203.0.113.0/24"]])])])).text

/-- Puts the other document in the place of the second. -/
def rearrange (_ : Nat) (reply : Reply) : Reply := if reply = second then rearranged else reply

theorem rearrange_alike (s : Nat) (reply : Reply) :
    rearrange s reply = reply ∨ Reply.Alike collector.url reply (rearrange s reply) := by
  unfold rearrange
  split
  · next heq =>
    subst heq
    have hassignments : (handedOut? (collector.reading rearranged)).map (·.assignments) =
        some after.assignments := by
      decide +kernel
    obtain ⟨listed, hlisted, hpairs⟩ := Option.map_eq_some_iff.1 hassignments
    exact .inr (alike_of_pairs_eq reading_second (handedOut?_eq_some_iff.1 hlisted)
      (Snapshot.assignments_eq_iff.1 hpairs.symm))
  · exact .inl rfl

end AddedSubnet

/-- The cycle that finds a subnet added finds just that in a second document
that is rearranged. -/
theorem cycle_second_reading_rearranged :
    (∀ s reply, AddedSubnet.rearrange s reply = reply ∨
        Reply.Alike AddedSubnet.collector.url reply (AddedSubnet.rearrange s reply)) ∧
      AddedSubnet.rearrange 5 AddedSubnet.second ≠ AddedSubnet.second ∧
      ∃ retold n, Completes
        ((Agent.inTurn AddedSubnet.replies).world.amending AddedSubnet.rearrange) Sink.memory
        AddedSubnet.collector.cycle (0, 0) [] retold (.ok (.drifted AddedSubnet.drift 1 0))
        (5, n) [AddedSubnet.counted.metric] := by
  refine ⟨AddedSubnet.rearrange_alike, by decide +kernel, ?_⟩
  obtain ⟨trace, hunfolds, -⟩ := AddedSubnet.unfolds
  obtain ⟨retold, n, hretold, -⟩ := (cycle_second_reading AddedSubnet.rearrange_alike).1 _ _ _ _
    (completes_of_unfolds hunfolds)
  exact ⟨retold, n, hretold⟩

end Collector

end KeaGauge
