import KeaGauge.Cycle.Collector
import KeaGauge.Proofs.Cycle.Inquiry
/-!
# How a cycle unfolds

Every execution of a cycle is one of three: the first reading did not open
it, the statistics could not be collected, or it came to its second reading
and ended there in one of seven ways (`Ending`). `Unfolds` lists them with
everything that happened. There is no other (`unfolds_of_completes`), and each
of them can come about (`completes_of_unfolds`). What is proved of whole
cycles is proved by these cases.
-/

namespace KeaGauge

open Kea (Command Snapshot Drift)
open Dialogue (Completes)

/-- How a sink takes a batch that is handed over unless it is empty. -/
def Sink.take {τ : Type} (sink : Sink τ) (t : τ) (batch : List Metric) :
    Except SinkError Unit × τ :=
  if batch.isEmpty then (.ok (), t) else sink t batch

/-- A sink in memory holds more by the batch, whether or not it is empty. -/
theorem Sink.take_memory (held batch : List Metric) :
    memory.take held batch = (.ok (), held ++ batch) := by
  unfold take memory
  split
  · next h => rw [List.isEmpty_iff.1 h, List.append_nil]
  · rfl

/-- The handing over of a batch, if it is not empty. -/
def Happening.handed {σ : Type} (batch : List Metric) : List (Happening σ) :=
  if batch.isEmpty then [] else [.delivered batch]

/-- What replies to the requests for statistics bring. -/
def Request.collectedFrom (url : String) (requests : List Request) (replies : List Reply) :
    Except Kea.Error (List Collected) :=
  (answersOf url requests replies).map collectedOf

/-- What is reported of replies to requests for statistics. -/
def Request.collectionNotices (url : String) (commands : List Command) (requests : List Request)
    (replies : List Reply) : List Notice :=
  replyNotices url commands replies ++
    match answersOf url requests replies with
    | .error _ => []
    | .ok answers => answerNotices url answers

namespace Collector

variable {α σ τ : Type} {w : World σ} {sink : Sink τ} {s s' : σ} {t t' : τ}
variable {trace : List (Happening σ)} {result : α} {outcome : Outcome}

/-- What a reply to `config-get` says. -/
def reading (c : Collector) (reply : Reply) : Except Kea.Error Reading :=
  (Reading.ofReply c.url c.family reply).1

/-- The happenings of a reading of the configuration. -/
def readHappenings (c : Collector) (reply : Reply) (s : σ) : List (Happening σ) :=
  Happening.exchange (.configGet c.family) reply s ++
    (Reading.ofReply c.url c.family reply).2.map .noted

/-! ## The phases -/

theorem read_eq (c : Collector) (next : Except Kea.Error Reading → Dialogue α) :
    c.read next = .ask (.configGet c.family) fun reply =>
      .noting (Reading.ofReply c.url c.family reply).2 (next (c.reading reply)) := by
  rfl

theorem completes_read {c : Collector} {next : Except Kea.Error Reading → Dialogue α} :
    Completes w sink (c.read next) s t trace result s' t' ↔
      ∃ reply s₁ rest, w s (.configGet c.family) reply s₁ ∧
        trace = c.readHappenings reply s₁ ++ rest ∧
        Completes w sink (next (c.reading reply)) s₁ t rest result s' t' := by
  rw [read_eq, Dialogue.completes_ask]
  constructor
  · rintro ⟨reply, s₁, rest, answers, rfl, h⟩
    obtain ⟨rest, rfl, hnext⟩ := Dialogue.completes_noting.1 h
    exact ⟨reply, s₁, rest, answers, (List.append_assoc ..).symm, hnext⟩
  · rintro ⟨reply, s₁, rest, answers, rfl, h⟩
    exact ⟨reply, s₁, _, answers, List.append_assoc ..,
      Dialogue.completes_noting.2 ⟨rest, rfl, h⟩⟩

/-- The happenings of the collection of statistics, given those of the
inquiry and the replies taken up in it. -/
def collectHappenings (c : Collector) (before : Snapshot) (asked : List (Happening σ))
    (taken : List Reply) : List (Happening σ) :=
  asked ++ (Request.collectionNotices c.url (c.inquiry (Request.planned before)).commands
    (Request.planned before) taken).map .noted

theorem completes_collect {c : Collector} {before : Snapshot}
    {next : Except Kea.Error (List Collected) → Dialogue α} :
    Completes w sink (c.collect before next) s t trace result s' t' ↔
      ∃ asked p s₁ rest, (c.inquiry (Request.planned before)).Concludes w s asked p s₁ ∧
        trace = c.collectHappenings before asked p.taken ++ rest ∧
        Completes w sink (next (Request.collectedFrom c.url (Request.planned before) p.taken))
          s₁ t rest result s' t' := by
  -- What follows an inquiry: the notices on its replies, then those on the answers in them.
  have hrest : ∀ (p : Inquiry.Progress) (s₁ : σ) (rest : List (Happening σ)),
      Completes w sink
        (.noting (replyNotices c.url (c.inquiry (Request.planned before)).commands p.taken)
          (match answersOf c.url (Request.planned before) p.taken with
          | .error e => next (.error e)
          | .ok answers =>
            .noting (answerNotices c.url answers) (next (.ok (collectedOf answers)))))
        s₁ t rest result s' t' ↔
      ∃ rest', rest = (Request.collectionNotices c.url (c.inquiry (Request.planned before)).commands
          (Request.planned before) p.taken).map .noted ++ rest' ∧
        Completes w sink (next (Request.collectedFrom c.url (Request.planned before) p.taken))
          s₁ t rest' result s' t' := by
    intro p s₁ rest
    rw [Dialogue.completes_noting]
    unfold Request.collectionNotices Request.collectedFrom
    cases answersOf c.url (Request.planned before) p.taken with
    | error e => simp [Except.map]
    | ok answers =>
      constructor
      · rintro ⟨rest, rfl, h⟩
        obtain ⟨rest, rfl, hnext⟩ := Dialogue.completes_noting.1 h
        exact ⟨rest, by rw [List.map_append, List.append_assoc], hnext⟩
      · rintro ⟨rest, rfl, h⟩
        exact ⟨_, by rw [List.map_append, List.append_assoc],
          Dialogue.completes_noting.2 ⟨rest, rfl, h⟩⟩
  rw [collect, Dialogue.completes_askEach]
  constructor
  · rintro ⟨asked, p, s₁, rest, hq, rfl, h⟩
    obtain ⟨rest, rfl, hnext⟩ := (hrest p s₁ rest).1 h
    exact ⟨asked, p, s₁, rest, hq, (List.append_assoc ..).symm, hnext⟩
  · rintro ⟨asked, p, s₁, rest, hq, rfl, h⟩
    exact ⟨asked, p, s₁, _, hq, List.append_assoc .., (hrest p s₁ _).2 ⟨rest, rfl, h⟩⟩

theorem completes_emit {batch : List Metric} {next : Except SinkError Unit → Dialogue α} :
    Completes w sink (emit batch next) s t trace result s' t' ↔
      ∃ rest, trace = Happening.handed batch ++ rest ∧
        Completes w sink (next (sink.take t batch).1) s (sink.take t batch).2 rest
          result s' t' := by
  unfold emit Sink.take Happening.handed
  split
  · simp
  · exact Dialogue.completes_deliver

/-! ## The endings -/

/-- What a first reading opens a cycle with: a snapshot that lists a
subnet. -/
def opening : Except Kea.Error Reading → Except CollectionError Snapshot
  | .error e => .error (.kea e)
  | .ok (.refused result text) => .error (.configRefused result text)
  | .ok (.snapshot before) => if before.isEmpty then .error .noSubnets else .ok before

theorem opening_eq_ok_iff {reading : Except Kea.Error Reading} {before : Snapshot} :
    opening reading = .ok before ↔ reading = .ok (.snapshot before) ∧ before.isEmpty = false := by
  rcases reading with e | ⟨s⟩ | ⟨result, text⟩
  · simp [opening]
  · cases hempty : s.isEmpty
    · simp only [opening, hempty, Bool.false_eq_true, if_false, Except.ok.injEq,
        Reading.snapshot.injEq]
      constructor
      · rintro rfl
        exact ⟨rfl, hempty⟩
      · exact fun h => h.1
    · simp only [opening, hempty, if_true, Except.ok.injEq, Reading.snapshot.injEq, reduceCtorEq,
        false_iff, not_and]
      rintro rfl
      simp [hempty]
  · simp [opening]

/-- **How a cycle ends**, by what its second reading says and by whether the
sink takes the batch. -/
inductive Ending (c : Collector) (before : Snapshot) (collected : List Collected)
    (sink : Sink τ) (t : τ) :
    Except Kea.Error Reading → List (Happening σ) → Outcome → τ → Prop where
  | unread (e : Kea.Error) : Ending c before collected sink t (.error e) [] (.error (.kea e)) t
  | refused (result : Int) (text : String) :
      Ending c before collected sink t (.ok (.refused result text))
        [.passed .secondReading, .passed .inconsistent,
          .noted (.unverified c.url result text collected.length), .passed .done]
        (.ok (.unverified result text collected.length)) t
  | noSubnets {after : Snapshot} (empty : after.isEmpty = true) :
      Ending c before collected sink t (.ok (.snapshot after)) [] (.error .noSubnets) t
  | consistent {after : Snapshot} {batch : List Metric} {t' : τ}
      (nonempty : after.isEmpty = false) (same : before.drift? after = none)
      (all : batch = collected.map (·.metric)) (accepted : sink.take t batch = (.ok (), t')) :
      Ending c before collected sink t (.ok (.snapshot after))
        (.passed .secondReading :: .passed .consistent :: (Happening.handed batch ++
          [.noted (.emitted batch.length c.url), .passed .done]))
        (.ok (.consistent batch.length)) t'
  | consistentLost {after : Snapshot} {batch : List Metric} {e : SinkError} {t' : τ}
      (nonempty : after.isEmpty = false) (same : before.drift? after = none)
      (all : batch = collected.map (·.metric)) (lost : sink.take t batch = (.error e, t')) :
      Ending c before collected sink t (.ok (.snapshot after))
        (.passed .secondReading :: .passed .consistent :: Happening.handed batch)
        (.error (.sink e)) t'
  | drifted {after : Snapshot} {drift : Drift} {batch : List Metric} {t' : τ}
      (nonempty : after.isEmpty = false) (differs : before.drift? after = some drift)
      (kept : batch = c.policy.kept drift collected)
      (accepted : sink.take t batch = (.ok (), t')) :
      Ending c before collected sink t (.ok (.snapshot after))
        (.passed .secondReading :: .passed .inconsistent :: .noted (.drifted c.url drift) ::
          (Happening.handed batch ++
            [.noted (.discarded (collected.length - batch.length) collected.length c.url),
              .passed .done]))
        (.ok (.drifted drift batch.length (collected.length - batch.length))) t'
  | driftedLost {after : Snapshot} {drift : Drift} {batch : List Metric} {e : SinkError} {t' : τ}
      (nonempty : after.isEmpty = false) (differs : before.drift? after = some drift)
      (kept : batch = c.policy.kept drift collected)
      (lost : sink.take t batch = (.error e, t')) :
      Ending c before collected sink t (.ok (.snapshot after))
        (.passed .secondReading :: .passed .inconsistent :: .noted (.drifted c.url drift) ::
          Happening.handed batch)
        (.error (.sink e)) t'

section Endings

variable {c : Collector} {before after : Snapshot} {collected : List Collected}

/-- A batch is handed over, and the cycle ends with a report or because the
sink refused. -/
theorem completes_emit_report {batch : List Metric}
    {next : Except SinkError Unit → Dialogue Outcome} {notice : Notice} {report : Report}
    (hok : next (.ok ()) = .note notice (.pass .done (.done (.ok report))))
    (herror : ∀ e, next (.error e) = .done (.error (.sink e)))
    (h : Completes w sink (emit batch next) s t trace outcome s' t') :
    s' = s ∧
      ((sink.take t batch = (.ok (), t') ∧
          trace = Happening.handed batch ++ [.noted notice, .passed .done] ∧
          outcome = .ok report) ∨
        ∃ e, sink.take t batch = (.error e, t') ∧ trace = Happening.handed batch ∧
          outcome = .error (.sink e)) := by
  obtain ⟨rest, rfl, hnext⟩ := completes_emit.1 h
  cases htake : sink.take t batch with
  | mk verdict held =>
    rw [htake] at hnext
    cases verdict with
    | ok _ =>
      rw [hok] at hnext
      obtain ⟨_, rfl, hpass⟩ := Dialogue.completes_note.1 hnext
      obtain ⟨_, rfl, hdone⟩ := Dialogue.completes_pass.1 hpass
      obtain ⟨rfl, rfl, rfl, rfl⟩ := Dialogue.completes_done.1 hdone
      exact ⟨rfl, .inl ⟨rfl, rfl, rfl⟩⟩
    | error e =>
      rw [herror] at hnext
      obtain ⟨rfl, rfl, rfl, rfl⟩ := Dialogue.completes_done.1 hnext
      exact ⟨rfl, .inr ⟨e, rfl, List.append_nil _, rfl⟩⟩

theorem ending_of_endConsistent (nonempty : after.isEmpty = false)
    (same : before.drift? after = none)
    (h : Completes w sink (.pass .secondReading (c.endConsistent collected)) s t trace outcome
      s' t') :
    s' = s ∧ c.Ending before collected sink t (.ok (.snapshot after)) trace outcome t' := by
  obtain ⟨_, rfl, hpass⟩ := Dialogue.completes_pass.1 h
  obtain ⟨_, rfl, hemit⟩ := Dialogue.completes_pass.1 hpass
  obtain ⟨rfl, ⟨accepted, rfl, rfl⟩ | ⟨e, lost, rfl, rfl⟩⟩ :=
    completes_emit_report rfl (fun _ => rfl) hemit
  · exact ⟨rfl, .consistent nonempty same rfl accepted⟩
  · exact ⟨rfl, .consistentLost nonempty same rfl lost⟩

theorem ending_of_endDrifted {drift : Drift} (nonempty : after.isEmpty = false)
    (differs : before.drift? after = some drift)
    (h : Completes w sink (.pass .secondReading (c.endDrifted collected drift)) s t trace
      outcome s' t') :
    s' = s ∧ c.Ending before collected sink t (.ok (.snapshot after)) trace outcome t' := by
  obtain ⟨_, rfl, hpass⟩ := Dialogue.completes_pass.1 h
  obtain ⟨_, rfl, hnote⟩ := Dialogue.completes_pass.1 hpass
  obtain ⟨_, rfl, hemit⟩ := Dialogue.completes_note.1 hnote
  obtain ⟨rfl, ⟨accepted, rfl, rfl⟩ | ⟨e, lost, rfl, rfl⟩⟩ :=
    completes_emit_report rfl (fun _ => rfl) hemit
  · exact ⟨rfl, .drifted nonempty differs rfl accepted⟩
  · exact ⟨rfl, .driftedLost nonempty differs rfl lost⟩

/-- After the second reading the agent is asked no more, and the cycle has
one of the endings. -/
theorem ending_of_completes {reading : Except Kea.Error Reading}
    (h : Completes w sink (c.conclude before collected reading) s t trace outcome s' t') :
    s' = s ∧ c.Ending before collected sink t reading trace outcome t' := by
  rcases reading with e | ⟨after⟩ | ⟨result, text⟩
  · obtain ⟨rfl, rfl, rfl, rfl⟩ := Dialogue.completes_done.1 h
    exact ⟨rfl, .unread e⟩
  · rw [conclude] at h
    split at h
    · next empty =>
      obtain ⟨rfl, rfl, rfl, rfl⟩ := Dialogue.completes_done.1 h
      exact ⟨rfl, .noSubnets empty⟩
    · next nonempty =>
      have nonempty := Bool.eq_false_iff.2 nonempty
      split at h
      · next same => exact ending_of_endConsistent nonempty same h
      · next drift differs => exact ending_of_endDrifted nonempty differs h
  · obtain ⟨_, rfl, h₁⟩ := Dialogue.completes_pass.1 h
    obtain ⟨_, rfl, h₂⟩ := Dialogue.completes_pass.1 h₁
    obtain ⟨_, rfl, h₃⟩ := Dialogue.completes_note.1 h₂
    obtain ⟨_, rfl, h₄⟩ := Dialogue.completes_pass.1 h₃
    obtain ⟨rfl, rfl, rfl, rfl⟩ := Dialogue.completes_done.1 h₄
    exact ⟨rfl, .refused result text⟩

theorem completes_passes {first second : Stage} {d : Dialogue Outcome}
    (h : Completes w sink d s t trace outcome s' t') :
    Completes w sink (.pass first (.pass second d)) s t
      (.passed first :: .passed second :: trace) outcome s' t' :=
  Dialogue.completes_pass.2 ⟨_, rfl, Dialogue.completes_pass.2 ⟨_, rfl, h⟩⟩

theorem completes_report (notice : Notice) (report : Report) :
    Completes w sink (.note notice (.pass .done (.done (Except.ok report : Outcome)))) s t
      [.noted notice, .passed .done] (.ok report) s t :=
  Dialogue.completes_note.2 ⟨_, rfl, Dialogue.completes_pass.2 ⟨_, rfl, .refl _⟩⟩

/-- Every ending is one that a cycle may have. -/
theorem completes_of_ending {reading : Except Kea.Error Reading}
    (h : c.Ending before collected sink t reading trace outcome t') :
    Completes w sink (c.conclude before collected reading) s t trace outcome s t' := by
  cases h with
  | unread e => exact .refl _
  | refused result text => exact completes_passes (completes_report _ _)
  | noSubnets empty =>
    rw [conclude, if_pos empty]
    exact .refl _
  | consistent nonempty same all accepted =>
    simp only [conclude, nonempty, same]
    subst all
    refine completes_passes (completes_emit.2 ⟨_, rfl, ?_⟩)
    rw [accepted]
    exact completes_report _ _
  | consistentLost nonempty same all lost =>
    simp only [conclude, nonempty, same]
    subst all
    refine completes_passes (completes_emit.2 ⟨[], (List.append_nil _).symm, ?_⟩)
    rw [lost]
    exact .refl _
  | drifted nonempty differs kept accepted =>
    simp only [conclude, nonempty, differs]
    subst kept
    refine completes_passes (Dialogue.completes_note.2 ⟨_, rfl, completes_emit.2 ⟨_, rfl, ?_⟩⟩)
    rw [accepted]
    exact completes_report _ _
  | driftedLost nonempty differs kept lost =>
    simp only [conclude, nonempty, differs]
    subst kept
    refine completes_passes (Dialogue.completes_note.2 ⟨_, rfl,
      completes_emit.2 ⟨[], (List.append_nil _).symm, ?_⟩⟩)
    rw [lost]
    exact .refl _

end Endings

/-! ## The whole cycle -/

/-- **How a cycle unfolds**: what happens in it, its outcome, and the states
of the agent and the sink then. -/
inductive Unfolds (c : Collector) (w : World σ) (sink : Sink τ) (s : σ) (t : τ) :
    List (Happening σ) → Outcome → σ → τ → Prop where
  | unopened {reply : Reply} {s₁ : σ} {e : CollectionError}
      (answers : w s (.configGet c.family) reply s₁)
      (fails : opening (c.reading reply) = .error e) :
      Unfolds c w sink s t (c.readHappenings reply s₁) (.error e) s₁ t
  | uncollected {reply : Reply} {s₁ s₂ : σ} {before : Snapshot} {asked : List (Happening σ)}
      {p : Inquiry.Progress} {e : Kea.Error} (answers : w s (.configGet c.family) reply s₁)
      (opens : opening (c.reading reply) = .ok before)
      (inquired : (c.inquiry (Request.planned before)).Concludes w s₁ asked p s₂)
      (fails : Request.collectedFrom c.url (Request.planned before) p.taken = .error e) :
      Unfolds c w sink s t
        (c.readHappenings reply s₁ ++ .passed .firstReading ::
          c.collectHappenings before asked p.taken)
        (.error (.kea e)) s₂ t
  | concluded {first second : Reply} {s₁ s₂ s₃ : σ} {before : Snapshot}
      {asked rest : List (Happening σ)} {p : Inquiry.Progress} {collected : List Collected}
      {outcome : Outcome} {t' : τ} (answers : w s (.configGet c.family) first s₁)
      (opens : opening (c.reading first) = .ok before)
      (inquired : (c.inquiry (Request.planned before)).Concludes w s₁ asked p s₂)
      (collects : Request.collectedFrom c.url (Request.planned before) p.taken = .ok collected)
      (again : w s₂ (.configGet c.family) second s₃)
      (ends : c.Ending before collected sink t (c.reading second) rest outcome t') :
      Unfolds c w sink s t
        (c.readHappenings first s₁ ++ .passed .firstReading ::
          (c.collectHappenings before asked p.taken ++ .passed .statistics ::
            (c.readHappenings second s₃ ++ rest)))
        outcome s₃ t'

/-- A cycle is opened by its first reading or ends at once. -/
theorem cycle_eq (c : Collector) :
    c.cycle = c.read fun reading => match opening reading with
      | .error e => .done (.error e)
      | .ok before =>
        .pass .firstReading (c.collect before fun
          | .error e => .done (.error (.kea e))
          | .ok collected => .pass .statistics (c.read (c.conclude before collected))) := by
  unfold cycle
  congr 1
  funext reading
  rcases reading with e | ⟨before⟩ | ⟨result, text⟩
  · rfl
  · cases hempty : before.isEmpty with
    | true => simp [opening, hempty]
    | false =>
      simp only [opening, hempty]
      rfl
  · rfl

/-- **Every execution of a cycle unfolds in one of these ways.** -/
theorem unfolds_of_completes {c : Collector}
    (h : Completes w sink c.cycle s t trace outcome s' t') :
    c.Unfolds w sink s t trace outcome s' t' := by
  rw [cycle_eq] at h
  obtain ⟨first, s₁, _, answers, rfl, hopen⟩ := completes_read.1 h
  cases opens : opening (c.reading first) with
  | error e =>
    rw [opens] at hopen
    obtain ⟨rfl, rfl, rfl, rfl⟩ := Dialogue.completes_done.1 hopen
    rw [List.append_nil]
    exact .unopened answers opens
  | ok before =>
    rw [opens] at hopen
    obtain ⟨_, rfl, hcollect⟩ := Dialogue.completes_pass.1 hopen
    obtain ⟨asked, p, s₂, _, inquired, rfl, hcollected⟩ := completes_collect.1 hcollect
    cases collects : Request.collectedFrom c.url (Request.planned before) p.taken with
    | error e =>
      rw [collects] at hcollected
      obtain ⟨rfl, rfl, rfl, rfl⟩ := Dialogue.completes_done.1 hcollected
      rw [List.append_nil]
      exact .uncollected answers opens inquired collects
    | ok collected =>
      rw [collects] at hcollected
      obtain ⟨_, rfl, hread⟩ := Dialogue.completes_pass.1 hcollected
      obtain ⟨second, s₃, rest, again, rfl, hconclude⟩ := completes_read.1 hread
      obtain ⟨rfl, ends⟩ := ending_of_completes hconclude
      exact .concluded answers opens inquired collects again ends

/-- **And each of these ways is one that a cycle may go.** -/
theorem completes_of_unfolds {c : Collector} (h : c.Unfolds w sink s t trace outcome s' t') :
    Completes w sink c.cycle s t trace outcome s' t' := by
  rw [cycle_eq]
  cases h with
  | unopened answers fails =>
    refine completes_read.2 ⟨_, _, [], answers, (List.append_nil _).symm, ?_⟩
    rw [fails]
    exact .refl _
  | uncollected answers opens inquired fails =>
    refine completes_read.2 ⟨_, _, _, answers, rfl, ?_⟩
    rw [opens]
    refine Dialogue.completes_pass.2 ⟨_, rfl,
      completes_collect.2 ⟨_, _, _, [], inquired, (List.append_nil _).symm, ?_⟩⟩
    rw [fails]
    exact .refl _
  | concluded answers opens inquired collects again ends =>
    refine completes_read.2 ⟨_, _, _, answers, rfl, ?_⟩
    rw [opens]
    refine Dialogue.completes_pass.2 ⟨_, rfl,
      completes_collect.2 ⟨_, _, _, _, inquired, rfl, ?_⟩⟩
    rw [collects]
    exact Dialogue.completes_pass.2 ⟨_, rfl,
      completes_read.2 ⟨_, _, _, again, rfl, completes_of_ending ends⟩⟩

end Collector

end KeaGauge
