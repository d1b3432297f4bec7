import KeaGauge.Proofs.Cycle.Discipline
/-!
# What a cycle delivers

A sink is left with what the batches of a trace make of it, step by step
(`sink_of_step`) and so throughout. In a cycle whose batch is not refused, as
many metrics are handed over as its outcome says (`emitted_of_completes`), and
an outcome that is barren goes with no batch at all.
-/

namespace KeaGauge

open Kea (Command Snapshot)
open Dialogue (Completes)

/-- What a sink is left with after batches. -/
def Sink.after {τ : Type} (sink : Sink τ) (t : τ) (batches : List (List Metric)) : τ :=
  batches.foldl (fun t batch => (sink t batch).2) t

theorem Sink.after_append {τ : Type} (sink : Sink τ) (t : τ) (batches more : List (List Metric)) :
    sink.after t (batches ++ more) = sink.after (sink.after t batches) more :=
  List.foldl_append

/-- **An outcome with which nothing is handed over**: an error, a second
reading that was refused, or a drift when that discards the whole cycle. -/
def Outcome.Barren (policy : DiscardPolicy) : Outcome → Prop
  | .ok (.consistent _) => False
  | .ok (.drifted _ _ _) => policy = .wholeCycle
  | .ok (.unverified _ _ _) => True
  | .error _ => True

namespace Happening

variable {σ : Type}

/-- The batches handed over in a trace. -/
def batches (trace : List (Happening σ)) : List (List Metric) := Event.batches (events trace)

theorem batches_append (trace more : List (Happening σ)) :
    batches (trace ++ more) = batches trace ++ batches more := by
  rw [batches, events, List.filterMap_append]
  exact Event.batches_append ..

/-- Batches are among the calls. -/
theorem batches_eq_calls (trace : List (Happening σ)) :
    batches trace = Event.batches (calls trace) := by
  rw [calls, Event.batches_calls]
  rfl

end Happening

/-! ## The sink of a dialogue -/

namespace Dialogue

variable {α σ τ : Type} {w : World σ} {sink : Sink τ} {a b : State α σ τ}
variable {trace : List (Happening σ)}

/-- **A step leaves the sink** with what its batch makes of it, if it hands one
over. -/
theorem sink_of_step (step : Step w sink a trace b) :
    b.sink = sink.after a.sink (Happening.batches trace) := by
  cases step with
  | inquire step => cases step <;> rfl
  | ask _ | askEach | conclude _ | deliver | note | pass => rfl

/-- So do any number of steps. -/
theorem sink_of_reaches (h : Reaches (Step w sink) a trace b) :
    b.sink = sink.after a.sink (Happening.batches trace) := by
  induction h with
  | refl => rfl
  | next head _ ih => rw [ih, sink_of_step head, Happening.batches_append, Sink.after_append]

/-- An execution leaves the sink with what its batches make of it. -/
theorem Completes.sink_eq {d : Dialogue α} {s s' : σ} {t t' : τ} {result : α}
    (h : Completes w sink d s t trace result s' t') :
    t' = sink.after t (Happening.batches trace) :=
  sink_of_reaches h

end Dialogue

/-! ## The batches of a cycle -/

namespace Collector

variable {σ τ : Type} {w : World σ} {sink : Sink τ} {c : Collector} {s s' : σ} {t t' : τ}
variable {trace rest : List (Happening σ)} {outcome : Outcome} {before : Snapshot}

/-- **An ending hands over as many metrics as its outcome says**, when it is
not the sink's error. -/
theorem emitted_of_ending {collected : List Collected} {reading : Except Kea.Error Reading}
    (h : c.Ending before collected sink t reading rest outcome t')
    (accepted : ∀ e, outcome ≠ .error (.sink e)) :
    (Event.batches (Happening.calls rest)).flatten.length = outcome.emitted := by
  cases h with
  | unread e => rfl
  | refused result text => rfl
  | noSubnets _ => rfl
  | @consistent _ batch _ _ _ _ _ =>
    change (Event.batches (Happening.calls (_ ++ _))).flatten.length = _
    rw [calls_handed_noted, flatten_batches_handed]
    rfl
  | consistentLost _ _ _ _ => exact absurd rfl (accepted _)
  | @drifted _ _ batch _ _ _ _ _ =>
    change (Event.batches (Happening.calls (_ ++ _))).flatten.length = _
    rw [calls_handed_noted, flatten_batches_handed]
    rfl
  | driftedLost _ _ _ _ => exact absurd rfl (accepted _)

/-- **A cycle whose batch is not refused** hands over as many metrics as its
outcome says, and none when the outcome is barren. -/
theorem emitted_of_completes (h : Completes w sink c.cycle s t trace outcome s' t')
    (taken : ∀ batch, (sink t batch).1 = .ok ()) :
    (Happening.batches trace).flatten.length = outcome.emitted ∧
      (outcome.Barren c.policy → Happening.batches trace = []) := by
  obtain ⟨-, hguarded⟩ := cycle_disciplined h
  have haccepted : ∀ e, outcome ≠ .error (.sink e) := by
    intro e houtcome
    obtain ⟨batch, -, hrefused⟩ := (hguarded.refused e).1 houtcome
    rw [taken batch] at hrefused
    exact absurd hrefused (by simp)
  constructor
  · rw [Happening.batches_eq_calls]
    cases unfolds_of_completes h with
    | unopened _ _ =>
      rw [calls_readHappenings]
      rfl
    | uncollected _ _ inquired _ =>
      rw [calls_uncollected _ _ inquired]
      exact congrArg (fun batches => (List.flatten batches).length) (Event.batches_asked _)
    | @concluded first second s₁ s₂ _ before asked rest p collected _ _ answers opens inquired
        collects again ends =>
      rw [calls_concluded first second s₁ s' rest inquired collects, ← emitted_of_ending ends
        haccepted]
      change (Event.batches (_ ++ .asked _ :: _)).flatten.length = _
      rw [Event.batches_append, Event.batches_asked, List.nil_append]
      rfl
  · intro hbarren
    refine hguarded.withheld ?_
    rcases outcome with e | ⟨n⟩ | ⟨drift, n, suppressed⟩ | ⟨result, text, suppressed⟩
    · cases e with
      | sink e => exact absurd rfl (haccepted e)
      | kea | configRefused | noSubnets => trivial
    · exact absurd hbarren id
    · exact hbarren
    · trivial

end Collector

end KeaGauge
