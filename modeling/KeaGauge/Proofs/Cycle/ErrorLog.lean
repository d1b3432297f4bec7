import KeaGauge.Proofs.Cycle.Balance
import KeaGauge.Proofs.Cycle.Emission
import KeaGauge.Proofs.Kea.Description
/-!
# The error log of a cycle

What a cycle reports of its entries, samples and replies are warnings, so the
errors that it logs are about its second reading. An inconsistent cycle logs
one, whether or not the sink takes what is kept: the description of the drift,
in brackets behind the URL of the agent (`errorLog_of_finds`). No bracket
opens in a description, so it is found again whatever the URL is, and from it
the drift (`message_drifted_inj`). So the log says which assignments were
added, removed and re-prefixed, and nothing else could have been logged of them
(`drift_told`).
-/

namespace KeaGauge

open Kea (Snapshot Drift)
open Dialogue (Completes)

/-! ## What is an error -/

/-- The errors among notices, as they are logged. -/
def Notice.errorLog (notices : List Notice) : List String :=
  (notices.filter fun notice => notice.level = .error).map message

theorem Notice.errorLog_append (notices more : List Notice) :
    errorLog (notices ++ more) = errorLog notices ++ errorLog more := by
  rw [errorLog, List.filter_append, List.map_append]
  rfl

/-- Where there are only warnings, no error is logged. -/
theorem Notice.errorLog_eq_nil {notices : List Notice}
    (h : ∀ notice ∈ notices, notice.level = .warn) : errorLog notices = [] := by
  have hnone : (notices.filter fun notice => notice.level = .error) = [] :=
    List.filter_eq_nil_iff.2 fun notice hmem => by simp [h notice hmem]
  rw [errorLog, hnone, List.map_nil]

/-- The reason why an entry is no subnet is a warning. -/
theorem Kea.Subnet.level_of_ofEntry {family : Net.Family} {entry : Json.Value} {fault : Notice}
    (h : ofEntry family entry = .error fault) : fault.level = .warn := by
  unfold ofEntry at h
  split at h
  · split at h
    · exact Except.error.inj h ▸ rfl
    split at h
    · exact Except.error.inj h ▸ rfl
    split at h
    · exact absurd h (by simp)
    · exact Except.error.inj h ▸ rfl
  · exact Except.error.inj h ▸ rfl

/-- **What is reported of an entry is a warning.** -/
theorem Kea.Subnet.level_of_mem_notices {family : Net.Family} {entry : Json.Value}
    {notice : Notice} (h : notice ∈ notices family entry) : notice.level = .warn := by
  unfold notices at h
  split at h
  · next fault hentry =>
    obtain rfl := List.mem_singleton.1 h
    exact level_of_ofEntry hentry
  · obtain ⟨_, -, rfl⟩ := List.mem_map.1 h
    rfl

theorem level_of_mem_responseNotices {url : String} {command : Kea.Command}
    {response : Kea.Response} {notice : Notice}
    (h : notice ∈ responseNotices url command response) : notice.level = .warn := by
  unfold responseNotices at h
  split at h
  · exact absurd h List.not_mem_nil
  · exact List.mem_singleton.1 h ▸ rfl

/-- **What is reported of a reading is a warning.** -/
theorem Reading.level_of_mem {url : String} {family : Net.Family} {reply : Reply}
    {notice : Notice} (h : notice ∈ (ofReply url family reply).2) : notice.level = .warn := by
  unfold ofReply at h
  split at h
  · exact absurd h List.not_mem_nil
  rcases List.mem_append.1 h with h | h
  · exact level_of_mem_responseNotices h
  unfold ofResponse at h
  split at h
  · split at h
    · exact absurd h List.not_mem_nil
    · next hobject =>
      unfold Snapshot.ofObject at hobject
      split at hobject
      · exact absurd hobject (by simp)
      · obtain rfl := (Prod.mk.inj (Except.ok.inj hobject)).2
        obtain ⟨entry, -, h⟩ := List.mem_flatMap.1 h
        exact Kea.Subnet.level_of_mem_notices h
  · exact absurd h List.not_mem_nil

/-- What is reported of an answer is a warning. -/
theorem Request.level_of_mem_notices {url : String} {r : Request} {response : Kea.Response}
    {notice : Notice} (h : notice ∈ r.notices url response) : notice.level = .warn := by
  unfold notices at h
  split at h
  · rcases List.mem_append.1 h with h | h
    · obtain ⟨_, -, rfl⟩ := List.mem_map.1 h
      rfl
    · split at h
      · exact List.mem_singleton.1 h ▸ rfl
      · exact absurd h List.not_mem_nil
  · exact absurd h List.not_mem_nil

/-- **What is reported of a collection is a warning.** -/
theorem Request.level_of_mem {url : String} {commands : List Kea.Command}
    {requests : List Request} {replies : List Reply} {notice : Notice}
    (h : notice ∈ collectionNotices url commands requests replies) : notice.level = .warn := by
  unfold collectionNotices at h
  rcases List.mem_append.1 h with h | h
  · obtain ⟨⟨command, reply⟩, -, h⟩ := List.mem_flatMap.1 h
    dsimp only at h
    split at h
    · exact level_of_mem_responseNotices h
    · exact absurd h List.not_mem_nil
  · split at h
    · exact absurd h List.not_mem_nil
    · obtain ⟨⟨r, response⟩, -, h⟩ := List.mem_flatMap.1 h
      exact Request.level_of_mem_notices h

/-! ## The error of a drift -/

/-- **A reported drift is known from its message**, and so is the URL. -/
theorem Notice.message_drifted_inj {url other : String} {d e : Drift}
    (h : (drifted url d).message = (drifted other e).message) : url = other ∧ d = e := by
  have hmessage : ∀ (url : String) (d : Drift), (drifted url d).message.toList =
      ("Subnet configuration of ".toList ++ (url.toList ++
        " was modified during metric fetching ".toList)) ++ '(' ::
          (d.text.toList ++ "), metrics may be associated with the wrong subnet".toList) := by
    intro url d
    have hmessage : (drifted url d).message = "Subnet configuration of " ++ url ++
        " was modified during metric fetching (" ++ d.text ++
        "), metrics may be associated with the wrong subnet" := rfl
    have hopen : " was modified during metric fetching (".toList =
        " was modified during metric fetching ".toList ++ ['('] := by simp
    rw [hmessage]
    simp only [String.toList_append]
    rw [hopen]
    simp only [List.append_assoc, List.cons_append, List.nil_append]
  -- behind the last bracket that opens stands the description
  have hbehind : ∀ d : Drift, '(' ∉
      d.text.toList ++ "), metrics may be associated with the wrong subnet".toList := by
    intro d hmem
    rcases List.mem_append.1 hmem with hmem | hmem
    · exact d.bracket_not_mem_text hmem
    · exact absurd hmem (by decide +kernel)
  rw [← String.toList_inj, hmessage, hmessage,
    Text.append_cons_inj_of_not_mem (hbehind d) (hbehind e)] at h
  obtain ⟨hurl, htext⟩ := h
  exact ⟨String.toList_inj.1 (List.append_cancel_right (List.append_cancel_left hurl)),
    Drift.text_inj (String.toList_inj.1 (List.append_cancel_right htext))⟩

namespace Happening

variable {σ : Type}

/-- The errors that are logged in a trace. -/
def errorLog (trace : List (Happening σ)) : List String :=
  Notice.errorLog (Event.notices (events trace))

theorem errorLog_append (trace more : List (Happening σ)) :
    errorLog (trace ++ more) = errorLog trace ++ errorLog more := by
  rw [errorLog, notices_append, Notice.errorLog_append]
  rfl

theorem errorLog_passed (stage : Stage) (rest : List (Happening σ)) :
    errorLog (.passed stage :: rest) = errorLog rest := rfl

theorem errorLog_handed (batch : List Metric) : errorLog (handed (σ := σ) batch) = [] := by
  unfold handed
  split <;> rfl

end Happening

namespace Collector

variable {σ τ : Type} {w : World σ} {sink : Sink τ} {c : Collector} {s s' : σ} {t t' : τ}
variable {trace rest : List (Happening σ)} {outcome : Outcome} {before after : Snapshot}
variable {d : Drift}

/-- **A cycle is inconsistent**: both of its readings list subnets, and they
differ by this drift. -/
def Finds (c : Collector) (trace : List (Happening σ)) (d : Drift) : Prop :=
  ∃ before collected after, c.findings trace = ⟨some before, some collected, some after⟩ ∧
    after.subnets ≠ [] ∧ before.drift? after = some d

theorem errorLog_readHappenings (reply : Reply) (s : σ) :
    Happening.errorLog (c.readHappenings reply s) = [] := by
  rw [readHappenings, Happening.errorLog_append, Happening.errorLog, Happening.errorLog,
    Happening.notices_noted, Notice.errorLog_eq_nil fun _ h => Reading.level_of_mem h]
  rfl

theorem errorLog_collectHappenings {asked : List (Happening σ)} {p : Inquiry.Progress}
    (h : (c.inquiry (Request.planned before)).Concludes w s asked p s') :
    Happening.errorLog (c.collectHappenings before asked p.taken) = [] := by
  rw [Happening.errorLog, notices_collectHappenings h]
  exact Notice.errorLog_eq_nil fun _ h => Request.level_of_mem h

/-- An ending at which the readings differ logs the drift, whatever the sink
does. -/
theorem errorLog_of_ending {collected : List Collected}
    (h : c.Ending before collected sink t (.ok (.snapshot after)) rest outcome t')
    (listed : after.subnets ≠ []) (differs : before.drift? after = some d) :
    Happening.errorLog rest = [(Notice.drifted c.url d).message] := by
  have hdrifted : ∀ behind : List (Happening σ), Happening.errorLog behind = [] →
      Happening.errorLog (.passed .secondReading :: .passed .inconsistent ::
        .noted (.drifted c.url d) :: behind) = [(Notice.drifted c.url d).message] := by
    intro behind hbehind
    change _ :: Happening.errorLog behind = _
    rw [hbehind]
  cases h with
  | noSubnets empty => exact absurd (List.isEmpty_iff.1 empty) listed
  | consistent _ same => exact absurd (same.symm.trans differs) (by simp)
  | consistentLost _ same => exact absurd (same.symm.trans differs) (by simp)
  | drifted _ differs' =>
    obtain rfl := Option.some.inj (differs.symm.trans differs')
    refine hdrifted _ ?_
    rw [Happening.errorLog_append, Happening.errorLog_handed]
    rfl
  | driftedLost _ differs' =>
    obtain rfl := Option.some.inj (differs.symm.trans differs')
    exact hdrifted _ (Happening.errorLog_handed _)

/-- **An inconsistent cycle logs one error, the drift.** -/
theorem errorLog_of_finds (h : Completes w sink c.cycle s t trace outcome s' t')
    (finds : c.Finds trace d) :
    Happening.errorLog trace = [(Notice.drifted c.url d).message] := by
  obtain ⟨before, collected, after, found, listed, differs⟩ := finds
  have hsome : (c.findings trace).after? ≠ none := by
    rw [found]
    exact Option.some_ne_none after
  cases unfolds_of_completes h with
  | unopened _ _ => exact absurd findings_unopened hsome
  | uncollected _ _ inquired _ => exact absurd (findings_uncollected inquired) hsome
  | @concluded first second s₁ _ _ opened asked rest p _ _ _ _ opens inquired collects _ ends =>
    rw [findings_concluded opens inquired collects ends] at found
    obtain ⟨hbefore, -, hafter⟩ := Findings.mk.inj found
    obtain rfl := Option.some.inj hbefore
    rw [handedOut?_eq_some_iff.1 hafter] at ends
    rw [Happening.errorLog_append, Happening.errorLog_passed, Happening.errorLog_append,
      Happening.errorLog_passed, Happening.errorLog_append, errorLog_readHappenings,
      errorLog_collectHappenings inquired, errorLog_readHappenings,
      errorLog_of_ending ends listed differs]
    rfl

/-- **An error log that an inconsistent cycle leaves**, however the agent
answers and whatever the sink does. -/
def Logs (c : Collector) (d : Drift) (log : List String) : Prop :=
  ∃ (σ τ : Type) (w : World σ) (sink : Sink τ) (s s' : σ) (t t' : τ)
    (trace : List (Happening σ)) (outcome : Outcome),
    Completes w sink c.cycle s t trace outcome s' t' ∧ c.Finds trace d ∧
      log = Happening.errorLog trace

/-- **The log tells the drift.** No two drifts are described alike, and nothing
is left out where two snapshots differ. An inconsistent cycle logs one error,
which holds the description, and from the error log of any such cycle it is
known which assignments were added, removed and re-prefixed. -/
theorem drift_told :
    (∀ d e : Drift, d.text = e.text → d = e) ∧
      (∀ (before after : Snapshot) (d : Drift), before.drift? after = some d → d.text ≠ "") ∧
      (∀ (c : Collector) (d : Drift) (log : List String), c.Logs d log →
        log = [(Notice.drifted c.url d).message]) ∧
      ∀ (c c' : Collector) (d e : Drift) (log : List String),
        c.Logs d log → c'.Logs e log → d = e := by
  have hlog : ∀ (c : Collector) (d : Drift) (log : List String), c.Logs d log →
      log = [(Notice.drifted c.url d).message] := by
    rintro c d log ⟨_, _, _, _, _, _, _, _, _, _, h, finds, rfl⟩
    exact errorLog_of_finds h finds
  refine ⟨fun _ _ => Drift.text_inj, fun _ _ _ => Snapshot.text_ne_empty, hlog, ?_⟩
  intro c c' d e log hd he
  have hmessages := (hlog c d log hd).symm.trans (hlog c' e log he)
  exact (Notice.message_drifted_inj (List.cons.inj hmessages).1).2

/-- What is known from the log of a cycle during which a subnet was added. -/
theorem drift_told_added_subnet :
    ∃ log, AddedSubnet.collector.Logs AddedSubnet.drift log ∧ AddedSubnet.drift.text ≠ "" ∧
      ∀ (c : Collector) (d : Drift), c.Logs d log → AddedSubnet.drift = d := by
  obtain ⟨asked, inquired, -⟩ := Inquiry.concludes_answers (Agent.inTurn AddedSubnet.replies)
    (AddedSubnet.collector.inquiry (Request.planned AddedSubnet.before)) 1
  rw [AddedSubnet.answers_eq] at inquired
  have opens := opening_eq_ok_iff.2 ⟨AddedSubnet.reading_first, rfl⟩
  have hfirst : (Agent.inTurn AddedSubnet.replies).world 0
    (.configGet AddedSubnet.collector.family) AddedSubnet.first 1 := rfl
  have hsecond : (Agent.inTurn AddedSubnet.replies).world 4
    (.configGet AddedSubnet.collector.family) AddedSubnet.second 5 := rfl
  have ends : ∃ rest : List (Happening Nat), AddedSubnet.collector.Ending AddedSubnet.before
      [AddedSubnet.counted] Sink.memory [] (.ok (.snapshot AddedSubnet.after)) rest
      (.ok (.drifted AddedSubnet.drift 1 0)) [AddedSubnet.counted.metric] :=
    ⟨_, .drifted rfl AddedSubnet.drift?_eq AddedSubnet.kept_eq_counted rfl⟩
  obtain ⟨rest, ends⟩ := ends
  rw [← AddedSubnet.reading_second] at ends
  have hlogs : ∃ log, AddedSubnet.collector.Logs AddedSubnet.drift log :=
    ⟨_, _, _, _, _, _, _, _, _, _, _, completes_of_unfolds (.concluded hfirst opens inquired
      AddedSubnet.collectedFrom_eq hsecond ends),
      ⟨_, _, _, (findings_concluded opens inquired AddedSubnet.collectedFrom_eq ends).trans
        (by rw [AddedSubnet.reading_second]; rfl), by decide, AddedSubnet.drift?_eq⟩, rfl⟩
  obtain ⟨log, hlogs⟩ := hlogs
  exact ⟨log, hlogs, drift_told.2.1 _ _ _ AddedSubnet.drift?_eq,
    fun c d h => drift_told.2.2.2 _ _ _ _ _ hlogs h⟩

end Collector

end KeaGauge
