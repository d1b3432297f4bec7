import KeaGauge.Proofs.Cycle.Concurrency
import KeaGauge.Proofs.Cycle.Discipline
/-!
# The path of a cycle

The stages that a cycle passes are the start of one path: first reading,
statistics, second reading, verdict, done. How far it comes, and which verdict
it passes, is decided by three things found in its replies: whether the first
reading opens it (`Opens`), whether a request for a statistic failed
(`Failed`), and whether the second reading closes it (`Closes`) or was refused
(`Refused`). Only the last stage is a matter of the sink (`cycle_conforms`).
-/

namespace KeaGauge

open Kea (Command Snapshot statisticName)
open Dialogue (Completes)
open Inquiry (Answered)

/-! ## Transitions -/

namespace Transition

/-- **A chain of transitions**: the first starts at a stage, and each of the
others where the one before it ended. -/
def Chained : Stage → List Transition → Prop
  | _, [] => True
  | stage, t :: rest => t.source = stage ∧ Chained t.target rest

/-- Between successive stages there is a chain, which ends at each of them in
turn. -/
theorem chained_zipWith (stage : Stage) (stages : List Stage) :
    Chained stage (List.zipWith mk (stage :: stages) stages) ∧
      (List.zipWith mk (stage :: stages) stages).map target = stages := by
  induction stages generalizing stage with
  | nil => exact ⟨trivial, rfl⟩
  | cons next rest ih =>
    obtain ⟨hchained, htargets⟩ := ih next
    exact ⟨⟨rfl, hchained⟩, congrArg (List.cons next) htargets⟩

end Transition

/-- The verdicts on the readings of a cycle. -/
def Stage.verdicts : List Stage := [consistent, inconsistent]

/-- The path of a cycle with a verdict. -/
def Stage.path (verdict : Stage) : List Stage :=
  [firstReading, statistics, secondReading, verdict, done]

namespace Collector

variable {σ τ : Type} {w : World σ} {sink : Sink τ} {c : Collector} {s s' : σ} {t t' : τ}
variable {trace rest : List (Happening σ)} {outcome : Outcome} {before : Snapshot}
variable {asked : List (Happening σ)} {p : Inquiry.Progress}

/-! ## What the replies say -/

/-- **A reply to `config-get` hands out a snapshot**: it is a success whose
document is accepted, is of the family asked for, and lists a subnet. -/
def HandsOut (c : Collector) (reply : Reply) (listed : Snapshot) : Prop :=
  ∃ response notices, reply.response c.url = .ok response ∧ response.result = 0 ∧
    Snapshot.ofObject response.arguments = .ok (listed, notices) ∧
    listed.family = c.family ∧ listed.subnets ≠ []

/-- A reply refuses: it is well formed, with another result than success. -/
def Refuses (c : Collector) (reply : Reply) : Prop :=
  ∃ response, reply.response c.url = .ok response ∧ response.result ≠ 0

/-- The first reading hands out this snapshot. -/
def Opens (c : Collector) (trace : List (Happening σ)) (before : Snapshot) : Prop :=
  ∃ reply, (Happening.repliesTo "config-get" trace)[0]? = some reply ∧ c.HandsOut reply before

/-- The second reading hands out this snapshot. -/
def Closes (c : Collector) (trace : List (Happening σ)) (after : Snapshot) : Prop :=
  ∃ reply, (Happening.repliesTo "config-get" trace)[1]? = some reply ∧ c.HandsOut reply after

/-- The second reading was refused. -/
def Refused (c : Collector) (trace : List (Happening σ)) : Prop :=
  ∃ reply, (Happening.repliesTo "config-get" trace)[1]? = some reply ∧ c.Refuses reply

/-- A request for a statistic was answered by what holds no response. -/
def Failed (c : Collector) (trace : List (Happening σ)) : Prop :=
  ∃ place command reply e, Answered trace place command reply ∧
    command.name = "statistic-get" ∧ reply.response c.url = .error e

/-- **The verdict on a cycle**, given the first snapshot: consistent when the
second reading hands out the same pairs, inconsistent when it hands out others
or was refused. Of a second reading that cannot be used there is none. -/
inductive Judged (c : Collector) (trace : List (Happening σ)) (before : Snapshot) : Stage → Prop
  | same {after : Snapshot} (closes : c.Closes trace after) (same : before.pairs = after.pairs) :
      Judged c trace before .consistent
  | differs {after : Snapshot} (closes : c.Closes trace after)
      (differs : before.pairs ≠ after.pairs) : Judged c trace before .inconsistent
  | refused (refused : c.Refused trace) : Judged c trace before .inconsistent

/-- **How far a cycle comes, and why**, given what happened in it and its
outcome. -/
structure Conforms (c : Collector) (trace : List (Happening σ)) (outcome : Outcome) : Prop where
  chained : Transition.Chained .start (Event.transitions (Happening.events trace))
  targets : (Event.transitions (Happening.events trace)).map (·.target) = Happening.stages trace
  ordered : ∃ verdict ∈ Stage.verdicts, Happening.stages trace <+: Stage.path verdict
  /-- A cycle without a stage was not opened. -/
  unopened : Happening.stages trace = [] ↔ ¬ ∃ before, c.Opens trace before
  /-- A cycle that stops at its first reading could not collect. -/
  uncollected : Happening.stages trace = [.firstReading] ↔
    (∃ before, c.Opens trace before) ∧ c.Failed trace
  /-- A cycle that stops at its statistics could not use its second reading,
  and not because that was refused. -/
  unread : Happening.stages trace = [.firstReading, .statistics] ↔
    (∃ before, c.Opens trace before) ∧ ¬ c.Failed trace ∧
      (¬ ∃ after, c.Closes trace after) ∧ ¬ c.Refused trace
  /-- A verdict is passed just when it is the one on the two readings. -/
  judged : ∀ verdict ∈ Stage.verdicts, verdict ∈ Happening.stages trace ↔
    ∃ before, c.Opens trace before ∧ ¬ c.Failed trace ∧ c.Judged trace before verdict
  /-- The path is passed to its end by a cycle that reports. -/
  done : (∃ verdict ∈ Stage.verdicts, Happening.stages trace = Stage.path verdict) ↔
    ∃ report, outcome = .ok report
  /-- A cycle that stops at its verdict lost its batch. -/
  lost : (∃ verdict ∈ Stage.verdicts, Happening.stages trace = (Stage.path verdict).dropLast) ↔
    ∃ e, outcome = .error (.sink e)

/-! ## The readings -/

theorem handsOut_iff {reply : Reply} {listed : Snapshot} :
    c.HandsOut reply listed ↔ opening (c.reading reply) = .ok listed := by
  rw [opening_eq_ok_iff, reading_eq_snapshot_iff]
  constructor
  · rintro ⟨response, notices, hresponse, hresult, hobject, hfamily, hne⟩
    exact ⟨⟨response, notices, hresponse, hresult, hobject, hfamily⟩,
      by simpa [Snapshot.isEmpty] using hne⟩
  · rintro ⟨⟨response, notices, hresponse, hresult, hobject, hfamily⟩, hne⟩
    exact ⟨response, notices, hresponse, hresult, hobject, hfamily,
      by simpa [Snapshot.isEmpty] using hne⟩

theorem refuses_iff {reply : Reply} :
    c.Refuses reply ↔ ∃ result text, c.reading reply = .ok (.refused result text) := by
  simp only [reading_eq_refused_iff]
  constructor
  · rintro ⟨response, hresponse, hresult⟩
    exact ⟨_, _, response, hresponse, hresult, rfl, rfl⟩
  · rintro ⟨_, _, response, hresponse, hresult, -, -⟩
    exact ⟨response, hresponse, hresult⟩

section Readings

variable {first second : Reply}

/-- Of the one reply to a single reading, it is known whether it opens the
cycle. -/
theorem opens_iff {replies : List Reply}
    (h : Happening.repliesTo "config-get" trace = first :: replies) :
    c.Opens trace before ↔ opening (c.reading first) = .ok before := by
  simp [Opens, h, handsOut_iff]

theorem closes_iff {after : Snapshot}
    (h : Happening.repliesTo "config-get" trace = [first, second]) :
    c.Closes trace after ↔ opening (c.reading second) = .ok after := by
  simp [Closes, h, handsOut_iff]

theorem refused_iff (h : Happening.repliesTo "config-get" trace = [first, second]) :
    c.Refused trace ↔ ∃ result text, c.reading second = .ok (.refused result text) := by
  simp [Refused, h, refuses_iff]

end Readings

/-! ## Failed requests -/

theorem failed_append {more : List (Happening σ)} :
    c.Failed (trace ++ more) ↔ c.Failed trace ∨ c.Failed more := by
  simp only [Failed, Inquiry.answered_append, or_and_right, exists_or]

theorem failed_passed {stage : Stage} : c.Failed (.passed stage :: trace) ↔ c.Failed trace := by
  simp [Failed, Answered]

theorem not_failed_readHappenings {reply : Reply} : ¬ c.Failed (c.readHappenings reply s) := by
  rintro ⟨place, command, answer, e, ⟨moment, hmem⟩, hname, -⟩
  obtain ⟨-, rfl, -⟩ : place = 0 ∧ command = .configGet c.family ∧ answer = reply ∧ moment = s := by
    simpa [readHappenings, Happening.exchange] using hmem
  exact absurd (show "config-get" = "statistic-get" from hname) (by decide)

theorem not_failed_ending {reading : Except Kea.Error Reading} {collected : List Collected}
    (h : c.Ending before collected sink t reading rest outcome t') : ¬ c.Failed rest := by
  rintro ⟨place, command, answer, e, ⟨moment, hmem⟩, -⟩
  cases h <;> simp [Happening.handed] at hmem

/-- **A request failed** just when the collection did. -/
theorem failed_collectHappenings
    (h : (c.inquiry (Request.planned before)).Concludes w s asked p s') :
    c.Failed (c.collectHappenings before asked p.taken) ↔
      ∃ e, Request.collectedFrom c.url (Request.planned before) p.taken = .error e := by
  have hsame : c.Failed (c.collectHappenings before asked p.taken) ↔ c.Failed asked := by
    rw [collectHappenings, failed_append]
    exact or_iff_left (by simp [Failed, Answered])
  rw [hsame]
  rcases h.taken_cases with ⟨hlength, hgood⟩ | ⟨good, bad, htaken, hgood, hbad⟩
  · -- every place was taken up, with a reply that is no failure
    obtain ⟨collected, hcollected, -⟩ := collectedFrom_eq_ok h hlength hgood
    rw [hcollected]
    refine iff_of_false ?_ (by simp)
    rintro ⟨place, command, reply, e, hanswered, -, hfails⟩
    have hcommand := ((h.coherent.answered_iff ..).1 hanswered).1
    have hlt : place < p.taken.length := hlength ▸ (List.getElem?_eq_some_iff.1 hcommand).1
    have hreply := ((h.answered_iff hlt).1 hanswered).2
    obtain ⟨response, hresponse⟩ :=
      isFailure_eq_false_iff.1 (hgood reply (List.mem_of_getElem? hreply))
    rw [hresponse] at hfails
    exact absurd hfails (by simp)
  · obtain ⟨e, he⟩ := isFailure_eq_true_iff.1 hbad
    obtain ⟨hcollected, first, subnet, statistic, key, reply, -, hanswered, hfails, -⟩ :=
      collectedFrom_eq_error h htaken hgood he
    exact iff_of_true ⟨_, _, _, _, hanswered, rfl, hfails⟩ ⟨e, hcollected⟩

/-! ## The path -/

theorem stages_handed (batch : List Metric) :
    Happening.stages (Happening.handed (σ := σ) batch) = [] := by
  unfold Happening.handed
  split <;> rfl

/-- What is said after a batch is that the cycle is done. -/
theorem stages_handed_noted (batch : List Metric) (notice : Notice) (stage : Stage) :
    Happening.stages (Happening.handed (σ := σ) batch ++ [.noted notice, .passed stage]) =
      [stage] := by
  rw [Happening.stages_append, stages_handed]
  rfl

/-- There is a verdict on a second reading that closes the cycle or was
refused, and on no other. -/
theorem exists_judged_iff :
    (∃ verdict, c.Judged trace before verdict) ↔
      (∃ after, c.Closes trace after) ∨ c.Refused trace := by
  constructor
  · rintro ⟨verdict, h⟩
    cases h with
    | same closes _ => exact .inl ⟨_, closes⟩
    | differs closes _ => exact .inl ⟨_, closes⟩
    | refused refused => exact .inr refused
  · rintro (⟨after, closes⟩ | refused)
    · by_cases h : before.pairs = after.pairs
      · exact ⟨_, .same closes h⟩
      · exact ⟨_, .differs closes h⟩
    · exact ⟨_, .refused refused⟩

/-- **Where a cycle halts**, with which outcome, and for what reason. -/
inductive Halts (c : Collector) (trace : List (Happening σ)) : List Stage → Outcome → Prop where
  | unopened {e : CollectionError} (unopened : ¬ ∃ before, c.Opens trace before)
      (accepted : ∀ fault, e ≠ .sink fault) : Halts c trace [] (.error e)
  | uncollected {before : Snapshot} {e : CollectionError}
      (opens : ∀ b, c.Opens trace b ↔ b = before) (failed : c.Failed trace)
      (accepted : ∀ fault, e ≠ .sink fault) : Halts c trace [.firstReading] (.error e)
  | unread {before : Snapshot} {e : CollectionError} (opens : ∀ b, c.Opens trace b ↔ b = before)
      (failed : ¬ c.Failed trace) (unjudged : ¬ ∃ verdict, c.Judged trace before verdict)
      (accepted : ∀ fault, e ≠ .sink fault) :
      Halts c trace [.firstReading, .statistics] (.error e)
  | lost {before : Snapshot} {verdict : Stage} {fault : SinkError}
      (hverdict : verdict ∈ Stage.verdicts) (opens : ∀ b, c.Opens trace b ↔ b = before)
      (failed : ¬ c.Failed trace) (judged : ∀ v, c.Judged trace before v ↔ v = verdict) :
      Halts c trace (Stage.path verdict).dropLast (.error (.sink fault))
  | done {before : Snapshot} {verdict : Stage} {report : Report}
      (hverdict : verdict ∈ Stage.verdicts) (opens : ∀ b, c.Opens trace b ↔ b = before)
      (failed : ¬ c.Failed trace) (judged : ∀ v, c.Judged trace before v ↔ v = verdict) :
      Halts c trace (Stage.path verdict) (.ok report)

/-- **Where a cycle halts tells it all**, for the reasons exclude each
other. -/
theorem Halts.conforms (h : c.Halts trace (Happening.stages trace) outcome) :
    c.Conforms trace outcome := by
  obtain ⟨hchained, htargets⟩ :=
    Transition.chained_zipWith .start (Event.stages (Happening.events trace))
  -- that there is a verdict is said of the second reading
  have hread : ∀ before, ((¬ ∃ after, c.Closes trace after) ∧ ¬ c.Refused trace) ↔
      ¬ ∃ verdict, c.Judged trace before verdict := fun before => by
    rw [exists_judged_iff, not_or]
  generalize hstages : Happening.stages trace = stages at h
  cases h with
  | unopened unopened accepted =>
    refine ⟨hchained, htargets, ⟨.consistent, List.mem_cons_self, ?_⟩, ?_, ?_, ?_, ?_, ?_, ?_⟩ <;>
    simp_all [Stage.path, Stage.verdicts]
  | @uncollected before _ opens failed accepted =>
    refine ⟨hchained, htargets, ⟨.consistent, List.mem_cons_self, ?_⟩, ?_, ?_, ?_, ?_, ?_, ?_⟩ <;>
    simp_all [Stage.path, Stage.verdicts, List.cons_prefix_cons]
  | @unread before _ opens failed unjudged accepted =>
    rw [← hread] at unjudged
    refine ⟨hchained, htargets, ⟨.consistent, List.mem_cons_self, ?_⟩, ?_, ?_, ?_, ?_, ?_, ?_⟩ <;>
    simp_all [Stage.path, Stage.verdicts, List.cons_prefix_cons]
  | @lost before verdict _ hverdict opens failed judged =>
    have hjudged := (hread before).not_left.2 ⟨verdict, (judged verdict).2 rfl⟩
    refine ⟨hchained, htargets, ⟨verdict, hverdict, ?_⟩, ?_, ?_, ?_, ?_, ?_, ?_⟩ <;>
    simp_all [Stage.path, Stage.verdicts, List.cons_prefix_cons]
  | @done before verdict _ hverdict opens failed judged =>
    have hjudged := (hread before).not_left.2 ⟨verdict, (judged verdict).2 rfl⟩
    refine ⟨hchained, htargets, ⟨verdict, hverdict, ?_⟩, ?_, ?_, ?_, ?_, ?_, ?_⟩ <;>
    simp_all [Stage.path, Stage.verdicts]

/-! ## The verdict -/

section Verdict

variable {first second : Reply} {after : Snapshot} {e : CollectionError}
variable (replies : Happening.repliesTo "config-get" trace = [first, second])
include replies

/-- A second reading that closes the cycle is judged by its pairs. -/
theorem judged_of_closing (closes : opening (c.reading second) = .ok after) (verdict : Stage) :
    c.Judged trace before verdict ↔
      verdict = if before.pairs = after.pairs then .consistent else .inconsistent := by
  have hreading := (opening_eq_ok_iff.1 closes).1
  have hafter : ∀ a, c.Closes trace a ↔ a = after := fun a => by
    rw [closes_iff replies, closes, Except.ok.injEq, eq_comm]
  constructor
  · intro h
    cases h with
    | same hcloses hsame => rw [if_pos ((hafter _).1 hcloses ▸ hsame)]
    | differs hcloses hdiffers => rw [if_neg ((hafter _).1 hcloses ▸ hdiffers)]
    | refused hrefused =>
      obtain ⟨result, text, h⟩ := (refused_iff replies).1 hrefused
      rw [h] at hreading
      exact absurd hreading (by simp)
  · rintro rfl
    split
    · next hsame => exact .same ((hafter _).2 rfl) hsame
    · next hdiffers => exact .differs ((hafter _).2 rfl) hdiffers

/-- A second reading that was refused makes the cycle inconsistent. -/
theorem judged_of_refusal {result : Int} {text : String}
    (refused : c.reading second = .ok (.refused result text)) (verdict : Stage) :
    c.Judged trace before verdict ↔ verdict = .inconsistent := by
  have hcloses : ∀ a, ¬ c.Closes trace a := fun a h => by
    rw [closes_iff replies, refused] at h
    exact absurd h (by simp [opening])
  constructor
  · intro h
    cases h with
    | same closes _ => exact absurd closes (hcloses _)
    | differs closes _ => exact absurd closes (hcloses _)
    | refused _ => rfl
  · rintro rfl
    exact .refused ((refused_iff replies).2 ⟨result, text, refused⟩)

/-- There is no verdict on a second reading that failed or lists no
subnet. -/
theorem not_judged_of_failure (fails : opening (c.reading second) = .error e)
    (unrefused : ∀ result text, c.reading second ≠ .ok (.refused result text)) (verdict : Stage) :
    ¬ c.Judged trace before verdict := by
  intro h
  rcases exists_judged_iff.1 ⟨verdict, h⟩ with ⟨after, closes⟩ | refused
  · rw [closes_iff replies, fails] at closes
    exact absurd closes (by simp)
  · obtain ⟨result, text, hreading⟩ := (refused_iff replies).1 refused
    exact unrefused result text hreading

/-- A cycle whose second reading closes it passes the verdict on its pairs,
and only the sink may halt it there. -/
theorem halts_of_closing {verdict : Stage} (opens : ∀ b, c.Opens trace b ↔ b = before)
    (failed : ¬ c.Failed trace) (closes : opening (c.reading second) = .ok after)
    (hverdict : (if before.pairs = after.pairs then Stage.consistent else .inconsistent) = verdict)
    {stages : List Stage}
    (h : (stages = Stage.path verdict ∧ ∃ report, outcome = .ok report) ∨
      (stages = (Stage.path verdict).dropLast ∧ ∃ fault, outcome = .error (.sink fault))) :
    c.Halts trace stages outcome := by
  have hmem : verdict ∈ Stage.verdicts := by
    rw [← hverdict]
    split <;> decide
  have hjudged : ∀ v, c.Judged trace before v ↔ v = verdict := fun v => by
    rw [judged_of_closing replies closes, hverdict]
  rcases h with ⟨rfl, report, rfl⟩ | ⟨rfl, fault, rfl⟩
  · exact .done hmem opens failed hjudged
  · exact .lost hmem opens failed hjudged

end Verdict

/-- A cycle that came to its second reading halts as its ending has it. -/
theorem halts_of_ending {first second : Reply} {collected : List Collected}
    (replies : Happening.repliesTo "config-get" trace = [first, second])
    (opens : opening (c.reading first) = .ok before) (failed : ¬ c.Failed trace)
    (h : c.Ending before collected sink t (c.reading second) rest outcome t') :
    c.Halts trace (.firstReading :: .statistics :: Happening.stages rest) outcome := by
  have hopens : ∀ b, c.Opens trace b ↔ b = before := fun b => by
    rw [opens_iff replies, opens, Except.ok.injEq, eq_comm]
  generalize hreading : c.reading second = reading at h
  cases h with
  | unread e =>
    have hjudged : ∀ verdict, ¬ c.Judged trace before verdict :=
      not_judged_of_failure replies (e := .kea e) (by rw [hreading]; rfl) (by simp [hreading])
    exact .unread hopens failed (not_exists.2 hjudged) (by simp)
  | noSubnets empty =>
    have hjudged : ∀ verdict, ¬ c.Judged trace before verdict :=
      not_judged_of_failure replies (e := .noSubnets) (by simp [hreading, opening, empty])
        (by simp [hreading])
    exact .unread hopens failed (not_exists.2 hjudged) (by simp)
  | refused result text =>
    exact .done (by decide : Stage.inconsistent ∈ Stage.verdicts) hopens failed
      (judged_of_refusal replies hreading)
  | consistent nonempty same _ _ =>
    refine halts_of_closing replies hopens failed (opening_eq_ok_iff.2 ⟨hreading, nonempty⟩)
      (if_pos (Snapshot.drift?_eq_none_iff.1 same)) (.inl ⟨?_, _, rfl⟩)
    simp only [Happening.stages_passed, stages_handed_noted, Stage.path]
  | consistentLost nonempty same _ _ =>
    refine halts_of_closing replies hopens failed (opening_eq_ok_iff.2 ⟨hreading, nonempty⟩)
      (if_pos (Snapshot.drift?_eq_none_iff.1 same)) (.inr ⟨?_, _, rfl⟩)
    simp only [Happening.stages_passed, stages_handed]
    rfl
  | @drifted _ drift batch _ nonempty differs _ _ =>
    refine halts_of_closing replies hopens failed (opening_eq_ok_iff.2 ⟨hreading, nonempty⟩)
      (if_neg (Snapshot.pairs_ne_of_drift? differs)) (.inl ⟨?_, _, rfl⟩)
    have hrest := stages_handed_noted (σ := σ) batch
      (.discarded (collected.length - batch.length) collected.length c.url) .done
    exact congrArg (.firstReading :: .statistics :: .secondReading :: .inconsistent :: ·) hrest
  | @driftedLost _ drift batch _ _ nonempty differs _ _ =>
    refine halts_of_closing replies hopens failed (opening_eq_ok_iff.2 ⟨hreading, nonempty⟩)
      (if_neg (Snapshot.pairs_ne_of_drift? differs)) (.inr ⟨?_, _, rfl⟩)
    exact congrArg (.firstReading :: .statistics :: .secondReading :: .inconsistent :: ·)
      (stages_handed (σ := σ) batch)

/-- Every cycle halts at a place of its path, for a reason. -/
theorem halts_of_unfolds (h : c.Unfolds w sink s t trace outcome s' t') :
    c.Halts trace (Happening.stages trace) outcome := by
  cases h with
  | @unopened first s₁ e answers fails =>
    rw [stages_readHappenings]
    refine .unopened ?_ (opening_ne_sink fails)
    rintro ⟨b, hopens⟩
    rw [opens_iff (repliesTo_readHappenings first s' "config-get"), fails] at hopens
    exact absurd hopens (by simp)
  | @uncollected first s₁ _ before asked p e answers opens inquired fails =>
    have hreplies : Happening.repliesTo "config-get" (c.readHappenings first s₁ ++
        .passed .firstReading :: c.collectHappenings before asked p.taken) = [first] := by
      simp [Happening.repliesTo_append, Happening.repliesTo_passed, repliesTo_readHappenings,
        repliesTo_collectHappenings inquired]
    have hstages : Happening.stages (c.readHappenings first s₁ ++
        .passed .firstReading :: c.collectHappenings before asked p.taken) = [.firstReading] := by
      rw [Happening.stages_append, stages_readHappenings, Happening.stages_passed,
        stages_collectHappenings inquired]
      rfl
    have hopens : ∀ b, c.Opens (c.readHappenings first s₁ ++
        .passed .firstReading :: c.collectHappenings before asked p.taken) b ↔ b = before :=
      fun b => by rw [opens_iff hreplies, opens, Except.ok.injEq, eq_comm]
    rw [hstages]
    refine .uncollected hopens ?_ (by simp)
    rw [failed_append, failed_passed, failed_collectHappenings inquired]
    exact .inr ⟨e, fails⟩
  | @concluded first second s₁ s₂ _ before asked rest p collected _ _ answers opens inquired
      collects again ends =>
    have hstages : Happening.stages (c.readHappenings first s₁ ++ .passed .firstReading ::
        (c.collectHappenings before asked p.taken ++ .passed .statistics ::
          (c.readHappenings second s' ++ rest))) =
        .firstReading :: .statistics :: Happening.stages rest := by
      simp only [Happening.stages_append, stages_readHappenings, Happening.stages_passed,
        stages_collectHappenings inquired, List.nil_append]
    rw [hstages]
    refine halts_of_ending ?_ opens ?_ ends
    · simp [Happening.repliesTo_append, Happening.repliesTo_passed, repliesTo_readHappenings,
        repliesTo_collectHappenings inquired, repliesTo_ending ends]
    · simp [failed_append, failed_passed, not_failed_readHappenings,
        failed_collectHappenings inquired, not_failed_ending ends, collects]

/-- **A cycle keeps to its path.** However the agent answers, whatever the
policy and the sink: the transitions of a cycle are a chain from the start,
along the path of a verdict, and how far they come is told by the replies and,
for the last of them, by the sink. -/
theorem cycle_conforms (h : Completes w sink c.cycle s t trace outcome s' t') :
    c.Conforms trace outcome :=
  (halts_of_unfolds (unfolds_of_completes h)).conforms

/-- The path of a cycle that comes to its verdict and loses its batch: a
subnet was added between the readings. -/
theorem cycle_conforms_lost_batch :
    ∃ trace, Completes (Agent.inTurn AddedSubnet.replies).world (Sink.refusing (.timedOut "carbon"))
        AddedSubnet.collector.cycle 0 [] trace (.error (.sink (.timedOut "carbon"))) 5 [] ∧
      AddedSubnet.collector.Conforms trace (.error (.sink (.timedOut "carbon"))) ∧
      ∃ verdict ∈ Stage.verdicts, Happening.stages trace = (Stage.path verdict).dropLast := by
  obtain ⟨trace, hunfolds, -⟩ := AddedSubnet.unfolds_of_ending
    (Sink.refusing (.timedOut "carbon")) []
    (.driftedLost rfl AddedSubnet.drift?_eq AddedSubnet.kept_eq_counted rfl)
  have h := completes_of_unfolds hunfolds
  have hconforms := cycle_conforms h
  exact ⟨trace, h, hconforms, hconforms.lost.2 ⟨_, rfl⟩⟩

end Collector

end KeaGauge
