import KeaGauge.Proofs.Poll.Isolation
import KeaGauge.Proofs.Settings.Launch
/-!
# The permits of a pass

A task begins its cycle with a permit and keeps it until the cycle has its
outcome, whatever this is. So no more cycles are under way than there are
permits, and none of the permits is ever lost: those held and those free are
all there are. While an outcome is missing some task can go on, and a pass that
cannot go on has all its permits back and a summary of every target
(`Pass.bounded_without_deadlock`).
-/

namespace KeaGauge

variable {σ τ : Type}

/-- Whether the cycle of a task has begun and has no outcome yet. -/
def TaskState.isUnderway : TaskState σ τ → Bool
  | running ⟨.talking (.done _), _, _⟩ => false
  | running _ => true
  | _ => false

/-- A cycle that is under way has a permit. -/
theorem TaskState.isRunning_of_isUnderway {task : TaskState σ τ} (h : task.isUnderway = true) :
    task.isRunning = true := by
  cases task with
  | running a => rfl
  | waiting | finished | collected => exact absurd h Bool.false_ne_true

namespace Pass

variable {c : Settings.Collecting} {sites : List (Site σ τ)} {p q : State σ τ}
variable {es fs : List (Nat × Happening σ)} {permits : Nat}

/-- How many cycles are under way. -/
def State.underway (p : State σ τ) : Nat := p.tasks.countP TaskState.isUnderway

theorem State.underway_le_held (p : State σ τ) : p.underway ≤ p.held :=
  List.countP_mono_left fun _ _ => TaskState.isRunning_of_isUnderway

/-- **Nothing happens in a cycle without a permit.** -/
theorem Step.isRunning_of_mem (step : Step c sites p es q) {e : Nat × Happening σ}
    (he : e ∈ es) : ∃ task, p.tasks[e.1]? = some task ∧ task.isRunning = true := by
  cases step with
  | work here runs step =>
    obtain ⟨happening, -, rfl⟩ := List.mem_map.1 he
    exact ⟨_, runs, rfl⟩
  | acquire | finish | collect => exact absurd he List.not_mem_nil

/-- When all outcomes are collected there is nothing left to do. -/
theorem State.Over.not_leads (h : p.Over) : ¬ Leads c sites q p := by
  rintro ⟨es, step⟩
  obtain ⟨i, x, task, more, task', -, htask, hstep, -, -⟩ := step.moves
  obtain ⟨outcome, s, t, rfl⟩ := h task (List.mem_of_getElem? htask)
  cases hstep

/-- **When all outcomes are collected, all permits are free.** -/
theorem Sound.free_eq (h : Sound c sites permits es p) (hover : p.Over) : p.free = permits := by
  have hheld : p.held = 0 := List.countP_eq_zero.2 fun task htask => by
    obtain ⟨outcome, s, t, rfl⟩ := hover task htask
    exact Bool.false_ne_true
  have hpermits := h.permits_eq
  omega

/-- **How permits are kept** in a pass on its way. -/
structure Bounded (c : Settings.Collecting) (sites : List (Site σ τ)) (permits : Nat)
    (p : State σ τ) : Prop where
  /-- A cycle that is under way has a permit, -/
  underway_le : p.underway ≤ p.held
  /-- and nothing happens in a cycle that has none. -/
  permitted : ∀ fs q, Step c sites p fs q → ∀ e ∈ fs,
    ∃ task, p.tasks[e.1]? = some task ∧ task.isRunning = true
  /-- No permit is lost, and none is made. -/
  permits_eq : p.held + p.free = permits

/-- **How a pass on its way goes on** to its summaries. -/
structure Unblocked (c : Settings.Collecting) (sites : List (Site σ τ)) (permits : Nat)
    (p : State σ τ) : Prop where
  /-- While an outcome is missing, a step is possible, -/
  goesOn : ¬ p.Over → ∃ q, Leads c sites q p
  /-- but there are no steps without an end. -/
  ends : Acc (Leads c sites) p
  /-- Where no step is possible all permits are back, and there is one summary
  for each target, of an outcome that its cycle may have. -/
  summed : (∀ q, ¬ Leads c sites q p) → p.free = permits ∧
    p.summaries.length = sites.length ∧ ∀ (i : Nat) (x : Site σ τ), sites[i]? = some x →
      ∃ outcome t, p.summaries[i]? = some ⟨x.target.label, outcome⟩ ∧ x.MayEnd c outcome t

/-- A pass whose agents let every request come to an end is not blocked. -/
theorem unblocked_of_reaches (hpermits : 1 ≤ permits) (total : ∀ x ∈ sites, x.world.Total)
    (h : Reaches (Step c sites) (start permits sites) es p) : Unblocked c sites permits p := by
  have hsound := sound_of_reaches h
  refine ⟨hsound.exists_step hpermits total, acc_leads c sites p, fun hstuck => ?_⟩
  have hover : p.Over := by
    by_contra hopen
    obtain ⟨q, hq⟩ := hsound.exists_step hpermits total hopen
    exact hstuck q hq
  have halone : Alone c sites p.summaries p.sinks :=
    alone_of_mayBring ⟨es, p, h, hover, rfl, rfl⟩
  refine ⟨hsound.free_eq hover, halone.length_summaries, fun i x hx => ?_⟩
  obtain ⟨outcome, t, hsummary, -, hends⟩ := halone.each i x hx
  exact ⟨outcome, t, hsummary, hends⟩

/-- **Bounded parallelism without deadlock.** Settings that violate no rule ask
for a permit at least. With a permit at least, permits are kept wherever a pass
has come to, and at most as many cycles are under way as there are permits.
When every request comes to an end, the pass does so too, with a summary of
every target. -/
theorem bounded_without_deadlock (hpermits : 1 ≤ permits) :
    (∀ s : Settings, s.violation? = none → 1 ≤ s.polling.parallel.toNat) ∧
      ∀ es p, Reaches (Step c sites) (start permits sites) es p →
        (p.underway ≤ permits ∧ Bounded c sites permits p) ∧
          ((∀ x ∈ sites, x.world.Total) → Unblocked c sites permits p) := by
  refine ⟨fun s h => Settings.toNat_pos (Settings.violation?_eq_none_iff.1 h).parallel,
    fun es p h => ?_⟩
  have hpermits_eq := (sound_of_reaches h).permits_eq
  have hunderway := p.underway_le_held
  have hbounded : Bounded c sites permits p :=
    ⟨hunderway, fun fs q step e he => step.isRunning_of_mem he, hpermits_eq⟩
  exact ⟨⟨by omega, hbounded⟩, fun total => unblocked_of_reaches hpermits total h⟩

/-- With one permit, a pass over a dead target and a healthy one can begin, and
it can come to where it cannot go on, with both summaries. -/
theorem bounded_without_deadlock_dead_target :
    (∀ x ∈ [DeadTarget.dead, DeadTarget.healthy].map Station.site, x.world.Total) ∧
      (∃ q, Leads DeadTarget.settings ([DeadTarget.dead, DeadTarget.healthy].map Station.site) q
        (start 1 ([DeadTarget.dead, DeadTarget.healthy].map Station.site))) ∧
      ∃ es p, Reaches (Step DeadTarget.settings
          ([DeadTarget.dead, DeadTarget.healthy].map Station.site))
          (start 1 ([DeadTarget.dead, DeadTarget.healthy].map Station.site)) es p ∧
        p.free = 1 ∧ p.summaries.length = 2 := by
  have total := total_of_stations [DeadTarget.dead, DeadTarget.healthy]
  obtain ⟨-, hpass⟩ := @bounded_without_deadlock _ _ DeadTarget.settings
    ([DeadTarget.dead, DeadTarget.healthy].map Station.site) 1 le_rfl
  obtain ⟨es, p, hreaches, hover, -, -⟩ := mayBring_of_alone (le_refl 1)
    (alone_pass DeadTarget.settings [DeadTarget.dead, DeadTarget.healthy])
  obtain ⟨hfree, hlength, -⟩ := ((hpass es p hreaches).2 total).summed fun q => hover.not_leads
  have hgoesOn := ((hpass [] _ (.refl _)).2 total).goesOn
  refine ⟨total, hgoesOn fun hover => ?_, es, p, hreaches, hfree, hlength⟩
  obtain ⟨outcome, s, t, hwaits⟩ := hover .waiting List.mem_cons_self
  exact absurd hwaits (by simp)

end Pass

end KeaGauge
