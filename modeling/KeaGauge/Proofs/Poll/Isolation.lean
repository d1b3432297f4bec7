import KeaGauge.Poll.Launch
import KeaGauge.Proofs.Cycle.Emission
import KeaGauge.Proofs.Poll.Execution
import KeaGauge.Proofs.Settings.Launch
import Mathlib.Data.List.OfFn
/-!
# What a pass brings

A pass is never stuck while an outcome is missing, and does not go on
forever. What it brings in the end, in the order of its targets, is for each
of them an outcome that its cycle may have when it runs alone, and every
choice of such outcomes may come about (`Pass.mayBring_iff`). So nothing that
the other targets do makes a difference to one of them. All this is of passes
that get the permits they ask for; when there may not be so many, a pass
returns nothing (`Pass.isolated`).
-/

namespace KeaGauge

open Dialogue (Completes)

namespace Pass

variable {σ τ : Type} {c : Settings.Collecting} {sites others : List (Site σ τ)}
variable {p q : State σ τ} {es fs : List (Nat × Happening σ)} {permits : Nat}

/-! ## Lists in the order of their places -/

/-- **Sorting by place puts everything in its place**, when there is one thing
for each. -/
theorem getElem?_map_mergeSort {E : Type} {found : List (Nat × E)} {n : Nat}
    (hnodup : (found.map Prod.fst).Nodup) (hplaces : ∀ i, i ∈ found.map Prod.fst ↔ i < n) :
    ((found.mergeSort fun a b => decide (a.1 ≤ b.1)).map (·.2)).length = n ∧
      ∀ i e, (i, e) ∈ found →
        ((found.mergeSort fun a b => decide (a.1 ≤ b.1)).map (·.2))[i]? = some e := by
  generalize hsorted : (found.mergeSort fun a b => decide (a.1 ≤ b.1)) = sorted
  have hperm : sorted.Perm found := hsorted ▸ List.mergeSort_perm ..
  have hordered : sorted.Pairwise fun a b => decide (a.1 ≤ b.1) = true := by
    rw [← hsorted]
    refine List.pairwise_mergeSort (fun a b d hab hbd => ?_) (fun a b => ?_) found
    · exact decide_eq_true ((of_decide_eq_true hab).trans (of_decide_eq_true hbd))
    · simpa using Nat.le_total a.1 b.1
  -- the places, in this order, are the numbers below `n` in theirs
  have hrange : sorted.map Prod.fst = List.range n := by
    have hplace : (sorted.map Prod.fst).Pairwise (· ≤ ·) :=
      List.pairwise_map.2 (hordered.imp of_decide_eq_true)
    have hnumber : (List.range n).Pairwise (· ≤ ·) := List.pairwise_lt_range.imp le_of_lt
    refine List.Perm.eq_of_pairwise (fun a b _ _ => le_antisymm) hplace hnumber ?_
    refine (hperm.map Prod.fst).trans ?_
    rw [List.perm_ext_iff_of_nodup hnodup List.nodup_range]
    simpa using hplaces
  have hlength : sorted.length = n := by
    rw [← List.length_map Prod.fst, hrange, List.length_range]
  refine ⟨by rw [List.length_map, hlength], fun i e hmem => ?_⟩
  obtain ⟨j, hj, hget⟩ := List.getElem_of_mem (hperm.mem_iff.2 hmem)
  have hplace : (sorted.map Prod.fst)[j]? = some i := by
    rw [List.getElem?_map, List.getElem?_eq_getElem hj, hget]
    rfl
  obtain rfl : j = i := by
    rw [hrange, List.getElem?_range (by omega)] at hplace
    exact Option.some.inj hplace
  rw [List.getElem?_map, List.getElem?_eq_getElem hj, hget]
  rfl

/-- When there is something for each member of a list, there is a list of it. -/
theorem exists_list_of_each {E F : Type} {l : List E} {P : Nat → E → F → Prop}
    (h : ∀ (i : Nat) (a : E), l[i]? = some a → ∃ b, P i a b) :
    ∃ l' : List F, l'.length = l.length ∧
      ∀ (i : Nat) (a : E) (b : F), l[i]? = some a → l'[i]? = some b → P i a b := by
  choose found hfound using fun i : Fin l.length => h i l[i] (List.getElem?_eq_getElem i.2)
  refine ⟨List.ofFn found, List.length_ofFn, fun i a b ha hb => ?_⟩
  obtain ⟨hi, rfl⟩ := List.getElem?_eq_some_iff.1 ha
  rw [List.getElem?_ofFn, dif_pos hi] at hb
  exact Option.some.inj hb ▸ hfound ⟨i, hi⟩

/-! ## A pass that is over -/

theorem State.Over.collected_at (h : p.Over) {i : Nat} (hi : i < p.tasks.length) :
    ∃ outcome s t, p.tasks[i]? = some (.collected outcome s t) := by
  obtain ⟨outcome, s, t, htask⟩ := h p.tasks[i] (List.getElem_mem hi)
  exact ⟨outcome, s, t, by rw [List.getElem?_eq_getElem hi, htask]⟩

/-- **The summaries are those of the targets, in their order.** -/
theorem Sound.summaries_eq (h : Sound c sites permits es p) (hover : p.Over) :
    p.summaries.length = sites.length ∧
      ∀ (i : Nat) (x : Site σ τ) (outcome : Outcome) (s : σ) (t : τ), sites[i]? = some x →
        p.tasks[i]? = some (.collected outcome s t) →
          p.summaries[i]? = some ⟨x.target.label, outcome⟩ := by
  have hplaces : ∀ i, i ∈ p.collected.map Prod.fst ↔ i < sites.length := by
    intro i
    constructor
    · intro hi
      obtain ⟨⟨i, summary⟩, hmem, rfl⟩ := List.mem_map.1 hi
      obtain ⟨x, -, -, -, hx, -, -⟩ := (h.mem_collected i summary).1 hmem
      exact (List.getElem?_eq_some_iff.1 hx).1
    · intro hi
      obtain ⟨outcome, s, t, htask⟩ := hover.collected_at (h.length_eq ▸ hi)
      have hx : sites[i]? = some sites[i] := List.getElem?_eq_getElem hi
      exact List.mem_map.2 ⟨_, (h.mem_collected i _).2 ⟨_, _, _, _, hx, htask, rfl⟩, rfl⟩
  obtain ⟨hlength, hget⟩ := getElem?_map_mergeSort h.nodup hplaces
  exact ⟨hlength, fun i x outcome s t hx htask =>
    hget i _ ((h.mem_collected i _).2 ⟨x, outcome, s, t, hx, htask, rfl⟩)⟩

/-- When all outcomes are collected, the sinks stand at the places of their
tasks. -/
theorem State.Over.sinks_eq (h : p.Over) :
    p.sinks.length = p.tasks.length ∧
      ∀ (i : Nat) (outcome : Outcome) (s : σ) (t : τ),
        p.tasks[i]? = some (.collected outcome s t) → p.sinks[i]? = some t := by
  obtain ⟨tasks, free, collected⟩ := p
  simp only [State.Over, State.sinks] at *
  induction tasks with
  | nil => simp
  | cons task rest ih =>
    obtain ⟨outcome, s, t, rfl⟩ := h task List.mem_cons_self
    obtain ⟨hlength, hget⟩ := ih fun task htask => h task (List.mem_cons_of_mem _ htask)
    rw [List.filterMap_cons_some (by rfl)]
    refine ⟨by rw [List.length_cons, hlength, List.length_cons], fun i outcome' s' t' htask => ?_⟩
    cases i with
    | zero =>
      obtain ⟨-, -, rfl⟩ := TaskState.collected.inj (Option.some.inj htask)
      rfl
    | succ i => exact hget i outcome' s' t' htask

/-! ## A pass comes to its end -/

/-- What a step of a pass leads to. -/
def Leads (c : Settings.Collecting) (sites : List (Site σ τ)) (q p : State σ τ) : Prop :=
  ∃ es, Step c sites p es q

/-- A running task can go on. -/
theorem Sound.exists_step_of_running (total : ∀ x ∈ sites, x.world.Total)
    (h : Sound c sites permits es p) {i : Nat} {a : Dialogue.State Outcome σ τ}
    (runs : p.tasks[i]? = some (.running a)) : ∃ q, Leads c sites q p := by
  have hi : i < sites.length := h.length_eq ▸ (List.getElem?_eq_some_iff.1 runs).1
  have here : sites[i]? = some sites[i] := List.getElem?_eq_getElem hi
  cases h.reached i _ _ here runs with
  | running steps =>
    have hcoherent : (sites[i].opening c).Coherent := fun _ _ _ h => by simp [Site.opening] at h
    have hworld := total _ (List.getElem_mem hi)
    rcases Dialogue.exists_step hworld sites[i].sink (hcoherent.reaches steps) with
      ⟨outcome, hdone⟩ | ⟨es, b, step⟩
    · obtain ⟨stand, s, t⟩ := a
      obtain rfl : stand = .talking (.done outcome) := hdone
      exact ⟨_, _, .finish here runs⟩
    · exact ⟨_, _, .work here runs step⟩

/-- **A pass is not stuck** while an outcome is missing: a task that waits
does so only while others hold all permits, and these can go on. -/
theorem Sound.exists_step (hpermits : 1 ≤ permits) (total : ∀ x ∈ sites, x.world.Total)
    (h : Sound c sites permits es p) (hopen : ¬ p.Over) : ∃ q, Leads c sites q p := by
  obtain ⟨task, hmem, hmissing⟩ : ∃ task ∈ p.tasks,
      ¬ ∃ outcome s t, task = .collected outcome s t := by
    simpa [State.Over] using hopen
  obtain ⟨i, hi, htask⟩ := List.getElem_of_mem hmem
  have htask : p.tasks[i]? = some task := htask ▸ List.getElem?_eq_getElem hi
  have hlt : i < sites.length := h.length_eq ▸ hi
  have here : sites[i]? = some sites[i] := List.getElem?_eq_getElem hlt
  cases task with
  | waiting =>
    by_cases hfree : 0 < p.free
    · exact ⟨_, _, .acquire here htask hfree⟩
    · have hheld : 0 < p.held := by
        have := h.permits_eq
        omega
      obtain ⟨other, hother, hruns⟩ := List.countP_pos_iff.1 hheld
      obtain ⟨j, hj, rfl⟩ := List.getElem_of_mem hother
      have hget : p.tasks[j]? = some p.tasks[j] := List.getElem?_eq_getElem hj
      cases hstate : p.tasks[j] with
      | running a => exact h.exists_step_of_running total (hstate ▸ hget)
      | waiting | finished | collected => simp [hstate, TaskState.isRunning] at hruns
  | running a => exact h.exists_step_of_running total htask
  | finished outcome s t => exact ⟨_, _, .collect here htask⟩
  | collected outcome s t => exact absurd ⟨outcome, s, t, rfl⟩ hmissing

/-- When each member of a list is reached a last time, so is the list, of
which one member at a time goes on. -/
theorem acc_set {E : Type} {R : Nat → E → E → Prop} (l : List E)
    (h : ∀ i a, l[i]? = some a → Acc (R i) a) :
    Acc (fun l' l => ∃ i a b, l[i]? = some a ∧ R i b a ∧ l' = l.set i b) l := by
  induction l generalizing R with
  | nil =>
    refine ⟨_, ?_⟩
    rintro _ ⟨i, a, b, hget, -, -⟩
    simp at hget
  | cons a l ih =>
    have hhead : Acc (R 0) a := h 0 a rfl
    have htail := ih (R := fun i => R (i + 1)) fun i a hget => h (i + 1) a hget
    clear ih h
    -- the first member goes on, or one of the others does
    induction hhead generalizing l with
    | intro a _ ihhead =>
      induction htail with
      | intro l hl ihtail =>
        refine ⟨_, ?_⟩
        rintro _ ⟨i, x, y, hget, hxy, rfl⟩
        cases i with
        | zero =>
          obtain rfl : a = x := by simpa using hget
          exact ihhead y hxy l ⟨_, hl⟩
        | succ i => exact ihtail _ ⟨i, x, y, by simpa using hget, hxy, rfl⟩

/-- **No pass goes on forever.** -/
theorem acc_leads (c : Settings.Collecting) (sites : List (Site σ τ)) (p : State σ τ) :
    Acc (Leads c sites) p := by
  have htasks := acc_set (R := fun i b a => ∃ x, sites[i]? = some x ∧ TaskState.Leads c x b a)
    p.tasks
    fun i a _ => by
      cases hx : sites[i]? with
      | none => exact ⟨_, by simp⟩
      | some x =>
        refine Subrelation.accessible (fun {b a} h => ?_) (TaskState.acc_leads c x a)
        obtain ⟨y, hy, hleads⟩ := h
        exact (Option.some.inj hy) ▸ hleads
  refine Subrelation.accessible ?_ (InvImage.accessible State.tasks htasks)
  rintro q p ⟨es, step⟩
  obtain ⟨i, x, task, more, task', hx, htask, hstep, hq, -⟩ := step.moves
  exact ⟨i, task, task', htask, ⟨x, hx, more, hstep⟩, hq⟩

/-! ## Every choice of outcomes may come about -/

/-- A task that runs goes on as its cycle does. -/
theorem reaches_work {i : Nat} {x : Site σ τ} {a b : Dialogue.State Outcome σ τ}
    {trace : List (Happening σ)} (here : sites[i]? = some x)
    (runs : p.tasks[i]? = some (.running a))
    (steps : Reaches (Dialogue.Step x.world x.sink) a trace b) :
    Reaches (Step c sites) p (trace.map (Prod.mk i))
      { p with tasks := p.tasks.set i (.running b) } := by
  have hlt := (List.getElem?_eq_some_iff.1 runs).1
  induction steps generalizing p with
  | refl a =>
    have hsame : p.tasks.set i (.running a) = p.tasks :=
      List.ext_getElem? fun j => by
        rw [List.getElem?_set]
        split
        · next hij => rw [← hij, runs]
        · rfl
    rw [hsame]
    exact .refl p
  | @next a b d first rest head _ ih =>
    have hruns : (p.tasks.set i (.running b))[i]? = some (.running b) :=
      List.getElem?_set_self hlt
    have hrest := ih (p := { p with tasks := p.tasks.set i (.running b) }) hruns
      (by simpa using hlt)
    rw [List.set_set] at hrest
    rw [List.map_append]
    exact .next (.work here runs head) hrest

/-- A task that waits may come to any outcome of its cycle while the others
stand still. -/
theorem reaches_collected {i : Nat} {x : Site σ τ} {trace : List (Happening σ)}
    {outcome : Outcome} {s : σ} {t : τ} (here : sites[i]? = some x)
    (waits : p.tasks[i]? = some .waiting) (room : 0 < p.free)
    (alone : Completes x.world x.sink (x.cycle c) x.agentState x.sinkState trace outcome s t) :
    ∃ es collected, Reaches (Step c sites) p es
      ⟨p.tasks.set i (.collected outcome s t), p.free, collected⟩ := by
  have hlt := (List.getElem?_eq_some_iff.1 waits).1
  have hset : ∀ (task task' : TaskState σ τ), ((p.tasks.set i task).set i task') =
      p.tasks.set i task' := fun _ _ => List.set_set ..
  have hget : ∀ task : TaskState σ τ, (p.tasks.set i task)[i]? = some task :=
    fun _ => List.getElem?_set_self hlt
  have hacquire := Step.acquire (c := c) here waits room
  have hwork := reaches_work (c := c)
    (p := ⟨p.tasks.set i (.running (x.opening c)), p.free - 1, p.collected⟩) here (hget _) alone
  rw [hset] at hwork
  have hfinish := Step.finish (c := c) here
    (p := ⟨p.tasks.set i (.running ⟨.talking (.done outcome), s, t⟩), p.free - 1, p.collected⟩)
    (hget _)
  have hcollect := Step.collect (c := c) here
    (p := ⟨p.tasks.set i (.finished outcome s t), p.free - 1 + 1, p.collected⟩) (hget _)
  rw [hset] at hfinish hcollect
  have hfree : p.free - 1 + 1 = p.free := by omega
  rw [hfree] at hfinish hcollect
  exact ⟨_, _, .next hacquire (hwork.trans (.next hfinish (.single hcollect)))⟩

/-- The task whose outcome is collected. -/
def ofResult (r : Outcome × σ × τ) : TaskState σ τ := .collected r.1 r.2.1 r.2.2

/-- With a permit to go round, the tasks may come to any outcomes of their
cycles, here one task after the other. -/
theorem reaches_results (hpermits : 1 ≤ permits) {results : List (Outcome × σ × τ)}
    (hlength : results.length = sites.length)
    (alone : ∀ (i : Nat) (x : Site σ τ) (r : Outcome × σ × τ), sites[i]? = some x →
      results[i]? = some r → ∃ trace,
        Completes x.world x.sink (x.cycle c) x.agentState x.sinkState trace r.1 r.2.1 r.2.2)
    (n : Nat) (hn : n ≤ sites.length) :
    ∃ es collected, Reaches (Step c sites) (start permits sites) es
      ⟨(results.take n).map ofResult ++ List.replicate (sites.length - n) .waiting, permits,
        collected⟩ := by
  induction n with
  | zero => exact ⟨[], [], .refl _⟩
  | succ n ih =>
    obtain ⟨es, collected, hreaches⟩ := ih (by omega)
    have hfront : ((results.take n).map (ofResult (σ := σ) (τ := τ))).length = n := by
      rw [List.length_map, List.length_take]
      omega
    have hx : sites[n]? = some sites[n] := List.getElem?_eq_getElem hn
    have hr : results[n]? = some results[n] := List.getElem?_eq_getElem (by omega)
    obtain ⟨k, hk⟩ : ∃ k, sites.length - n = k + 1 := ⟨sites.length - n - 1, by omega⟩
    have hk' : sites.length - (n + 1) = k := by omega
    obtain ⟨trace, hcompletes⟩ := alone n _ _ hx hr
    rw [hk, List.replicate_succ] at hreaches
    obtain ⟨fs, collected', hmore⟩ := reaches_collected
      (p := ⟨(results.take n).map ofResult ++ .waiting :: List.replicate k .waiting, permits,
        collected⟩) hx (by rw [List.getElem?_append_right hfront.le, hfront]; simp) hpermits
          hcompletes
    refine ⟨es ++ fs, collected', hreaches.trans ?_⟩
    have hset : ((results.take n).map ofResult ++
        (.waiting : TaskState σ τ) :: List.replicate k (.waiting : TaskState σ τ)).set n
          (ofResult results[n]) =
        (results.take (n + 1)).map ofResult ++ List.replicate k (.waiting : TaskState σ τ) := by
      rw [List.set_append_right _ _ hfront.le, hfront, Nat.sub_self, List.set_cons_zero,
        List.take_add_one, hr, List.map_append, List.append_assoc]
      rfl
    rw [hk', ← hset]
    exact hmore

/-! ## What a pass may bring -/

/-- **What a pass may bring**: its summaries, and what the sinks are left
with. -/
def MayBring (c : Settings.Collecting) (permits : Nat) (sites : List (Site σ τ))
    (summaries : List Summary) (sinks : List τ) : Prop :=
  ∃ es p, Reaches (Step c sites) (start permits sites) es p ∧ p.Over ∧
    p.summaries = summaries ∧ p.sinks = sinks

/-- **One for each**: as many summaries and sinks as there are targets, each
with the label of its target, and as the cycle with this target may leave them
when it runs alone. -/
structure Alone (c : Settings.Collecting) (sites : List (Site σ τ)) (summaries : List Summary)
    (sinks : List τ) : Prop where
  length_summaries : summaries.length = sites.length
  length_sinks : sinks.length = sites.length
  each : ∀ (i : Nat) (x : Site σ τ), sites[i]? = some x → ∃ outcome t,
    summaries[i]? = some ⟨x.target.label, outcome⟩ ∧ sinks[i]? = some t ∧ x.MayEnd c outcome t

/-- What a pass brings is one for each. -/
theorem alone_of_mayBring {summaries : List Summary} {sinks : List τ}
    (h : MayBring c permits sites summaries sinks) : Alone c sites summaries sinks := by
  obtain ⟨es, p, hreaches, hover, rfl, rfl⟩ := h
  have hsound := sound_of_reaches hreaches
  obtain ⟨hsummaries, hsummary⟩ := hsound.summaries_eq hover
  obtain ⟨hsinks, hsink⟩ := hover.sinks_eq
  refine ⟨hsummaries, hsinks.trans hsound.length_eq, fun i x hx => ?_⟩
  have hi : i < p.tasks.length := hsound.length_eq ▸ (List.getElem?_eq_some_iff.1 hx).1
  obtain ⟨outcome, s, t, htask⟩ := hover.collected_at hi
  refine ⟨outcome, t, hsummary i x outcome s t hx htask, hsink i outcome s t htask, ?_⟩
  cases hsound.reached i x _ hx htask with
  | collected alone => exact ⟨_, s, alone⟩

/-- And whatever is one for each may be brought. -/
theorem mayBring_of_alone (hpermits : 1 ≤ permits) {summaries : List Summary} {sinks : List τ}
    (h : Alone c sites summaries sinks) : MayBring c permits sites summaries sinks := by
  obtain ⟨results, hlength, hresults⟩ := exists_list_of_each (l := sites)
    (P := fun i x (r : Outcome × σ × τ) => summaries[i]? = some ⟨x.target.label, r.1⟩ ∧
      sinks[i]? = some r.2.2 ∧ ∃ trace,
        Completes x.world x.sink (x.cycle c) x.agentState x.sinkState trace r.1 r.2.1 r.2.2)
    fun i x hx => by
      obtain ⟨outcome, t, hsummary, hsink, trace, s, hcompletes⟩ := h.each i x hx
      exact ⟨(outcome, s, t), hsummary, hsink, trace, hcompletes⟩
  obtain ⟨es, collected, hreaches⟩ := reaches_results hpermits hlength
    (fun i x r hx hr => (hresults i x r hx hr).2.2) sites.length le_rfl
  rw [List.take_of_length_le hlength.le, Nat.sub_self, List.replicate_zero, List.append_nil]
    at hreaches
  have hover : (⟨results.map ofResult, permits, collected⟩ : State σ τ).Over := by
    intro task htask
    obtain ⟨r, -, rfl⟩ := List.mem_map.1 htask
    exact ⟨_, _, _, rfl⟩
  -- place by place, these are the summaries and the sinks that were chosen
  have hplace : ∀ i < sites.length, ∃ (x : Site σ τ) (r : Outcome × σ × τ),
      sites[i]? = some x ∧ results[i]? = some r ∧
        (results.map ofResult)[i]? = some (ofResult r) := by
    intro i hi
    have hr : results[i]? = some results[i] := List.getElem?_eq_getElem (by omega)
    exact ⟨_, _, List.getElem?_eq_getElem hi, hr, by rw [List.getElem?_map, hr]; rfl⟩
  obtain ⟨hsummaries, hsummary⟩ := (sound_of_reaches hreaches).summaries_eq hover
  obtain ⟨hsinks, hsink⟩ := hover.sinks_eq
  rw [List.length_map, hlength] at hsinks
  refine ⟨es, _, hreaches, hover, ?_, ?_⟩
  · refine List.ext_getElem?' fun i hi => ?_
    rw [hsummaries, h.length_summaries, max_self] at hi
    obtain ⟨x, r, hx, hr, htask⟩ := hplace i hi
    rw [hsummary i x _ _ _ hx htask, (hresults i x r hx hr).1]
  · refine List.ext_getElem?' fun i hi => ?_
    rw [hsinks, h.length_sinks, max_self] at hi
    obtain ⟨x, r, hx, hr, htask⟩ := hplace i hi
    rw [hsink i _ _ _ htask, (hresults i x r hx hr).2.1]

/-- **A pass brings, for each target, what its cycle may bring alone**, and
every choice of this. -/
theorem mayBring_iff (hpermits : 1 ≤ permits) {summaries : List Summary} {sinks : List τ} :
    MayBring c permits sites summaries sinks ↔ Alone c sites summaries sinks :=
  ⟨alone_of_mayBring, mayBring_of_alone hpermits⟩

/-- What a pass may bring for the target at a place. -/
def MayBringAt (c : Settings.Collecting) (permits : Nat) (sites : List (Site σ τ)) (i : Nat)
    (summary : Summary) (t : τ) : Prop :=
  ∃ summaries sinks, MayBring c permits sites summaries sinks ∧ summaries[i]? = some summary ∧
    sinks[i]? = some t

/-- **For one target this is what its cycle may bring alone.** -/
theorem mayBringAt_iff (hpermits : 1 ≤ permits) (total : ∀ x ∈ sites, x.world.Total) {i : Nat}
    {x : Site σ τ} (hx : sites[i]? = some x) {summary : Summary} {t : τ} :
    MayBringAt c permits sites i summary t ↔
      summary.label = x.target.label ∧ x.MayEnd c summary.outcome t := by
  constructor
  · rintro ⟨summaries, sinks, hbring, hsummary, hsink⟩
    obtain ⟨outcome, t', hsummary', hsink', hend⟩ := (alone_of_mayBring hbring).each i x hx
    obtain rfl := Option.some.inj (hsummary.symm.trans hsummary')
    obtain rfl := Option.some.inj (hsink.symm.trans hsink')
    exact ⟨rfl, hend⟩
  · rintro ⟨hlabel, hend⟩
    -- the other targets may bring what they will
    obtain ⟨brought, hlength, hbrought⟩ := exists_list_of_each (l := sites)
      (P := fun j y (r : Summary × τ) => (r.1.label = y.target.label ∧
        y.MayEnd c r.1.outcome r.2) ∧ (j = i → r = (summary, t)))
      fun j y hy => by
        by_cases hj : j = i
        · obtain rfl : x = y := Option.some.inj (hx.symm.trans (hj ▸ hy))
          exact ⟨(summary, t), ⟨hlabel, hend⟩, fun _ => rfl⟩
        · obtain ⟨outcome, t', hother⟩ :=
            Site.exists_mayEnd (total y (List.mem_of_getElem? hy)) c
          exact ⟨(⟨y.target.label, outcome⟩, t'), ⟨rfl, hother⟩, fun h => absurd h hj⟩
    have hget : ∀ (j : Nat) (y : Site σ τ), sites[j]? = some y → ∃ r, brought[j]? = some r := by
      intro j y hy
      have hj := (List.getElem?_eq_some_iff.1 hy).1
      exact ⟨_, List.getElem?_eq_getElem (by omega)⟩
    refine ⟨brought.map Prod.fst, brought.map Prod.snd, mayBring_of_alone hpermits
      ⟨by rw [List.length_map, hlength], by rw [List.length_map, hlength], fun j y hy => ?_⟩, ?_⟩
    · obtain ⟨r, hr⟩ := hget j y hy
      obtain ⟨⟨hlabel', hend'⟩, -⟩ := hbrought j y r hy hr
      refine ⟨_, _, ?_, by rw [List.getElem?_map, hr]; rfl, hend'⟩
      rw [List.getElem?_map, hr]
      exact congrArg (fun label => some (Summary.mk label _)) hlabel'
    · obtain ⟨r, hr⟩ := hget i x hx
      obtain rfl := (hbrought i x r hx hr).2 rfl
      simp [hr]

/-- The visits of a pass that runs are one for each. -/
theorem alone_pass (c : Settings.Collecting) (stations : List (Station σ τ)) :
    Alone c (stations.map Station.site) ((pass c stations).map Visit.summary)
      ((pass c stations).map (·.course.sink)) := by
  refine ⟨by simp [pass], by simp [pass], fun i x hx => ?_⟩
  rw [List.getElem?_map] at hx
  obtain ⟨station, hstation, rfl⟩ := Option.map_eq_some_iff.1 hx
  obtain ⟨trace, h, -⟩ := Dialogue.run_completes station.agent station.sink
    (station.site.cycle c) station.agentState station.sinkState
  refine ⟨(station.visit c).outcome, (station.visit c).course.sink, ?_, ?_, trace, _, h⟩
  · simp [pass, hstation]
    rfl
  · simp [pass, hstation]

theorem total_of_stations (stations : List (Station σ τ)) :
    ∀ x ∈ stations.map Station.site, x.world.Total := by
  intro x hx
  obtain ⟨station, -, rfl⟩ := List.mem_map.1 hx
  exact station.agent.world_total

/-! ## A pass that is launched -/

/-- Where a pass starts, with the permits that are asked for. When there may not
be so many there is a panic before anything else. -/
def launch (polling : Settings.Polling) (sites : List (Site σ τ)) : Except Panic (State σ τ) :=
  polling.permits.map fun permits => start permits.count sites

/-- **What a pass may return**: its summaries, with what the sinks are left
with, or a panic in their place. -/
inductive MayReturn (c : Settings.Collecting) (polling : Settings.Polling)
    (sites : List (Site σ τ)) : Except Panic (List Summary × List τ) → Prop where
  | panic {panic : Panic} (fails : launch polling sites = .error panic) :
      MayReturn c polling sites (.error panic)
  | summaries {p q : State σ τ} {es : List (Nat × Happening σ)}
      (starts : launch polling sites = .ok p) (goes : Reaches (Step c sites) p es q)
      (ended : q.Over) :
      MayReturn c polling sites (.ok (q.summaries, q.sinks))

/-- What a pass may return for the target at a place. -/
def MayReturnAt (c : Settings.Collecting) (polling : Settings.Polling) (sites : List (Site σ τ))
    (i : Nat) (summary : Summary) (t : τ) : Prop :=
  ∃ summaries sinks, MayReturn c polling sites (.ok (summaries, sinks)) ∧
    summaries[i]? = some summary ∧ sinks[i]? = some t

section Launch

variable {polling : Settings.Polling} {result : Except Panic (List Summary × List τ)}

/-- A pass starts when there may be so many permits. -/
theorem launch_eq_ok (room : polling.parallel.toNat ≤ maxPermits) (sites : List (Site σ τ)) :
    launch polling sites = .ok (start polling.parallel.toNat sites) := by
  have hpermits : polling.permits = .ok ⟨_, room⟩ := Permits.make_eq_ok_iff.2 rfl
  rw [launch, hpermits]
  rfl

/-- And it does not when there may not. -/
theorem launch_eq_error (crowded : maxPermits < polling.parallel.toNat)
    (sites : List (Site σ τ)) : launch polling sites = .error .tooManyPermits := by
  have hpermits : polling.permits = .error .tooManyPermits :=
    Permits.make_eq_error_iff.2 ⟨rfl, crowded⟩
  rw [launch, hpermits]
  rfl

/-- **A pass that starts returns what it brings.** -/
theorem mayReturn_iff (room : polling.parallel.toNat ≤ maxPermits) :
    MayReturn c polling sites result ↔ ∃ summaries sinks, result = .ok (summaries, sinks) ∧
      MayBring c polling.parallel.toNat sites summaries sinks := by
  have hlaunch := launch_eq_ok room sites
  constructor
  · rintro (fails | ⟨starts, goes, ended⟩)
    · exact absurd (hlaunch.symm.trans fails) (by simp)
    · obtain rfl := Except.ok.inj (hlaunch.symm.trans starts)
      exact ⟨_, _, rfl, _, _, goes, ended, rfl, rfl⟩
  · rintro ⟨_, _, rfl, es, p, goes, ended, rfl, rfl⟩
    exact .summaries hlaunch goes ended

/-- **A pass that does not start returns nothing.** -/
theorem mayReturn_iff_of_crowded (crowded : maxPermits < polling.parallel.toNat) :
    MayReturn c polling sites result ↔ result = .error .tooManyPermits := by
  have hlaunch := launch_eq_error crowded sites
  constructor
  · rintro (fails | ⟨starts, -, -⟩)
    · rw [Except.error.inj (hlaunch.symm.trans fails)]
    · exact absurd (hlaunch.symm.trans starts) (by simp)
  · rintro rfl
    exact .panic hlaunch

theorem mayReturnAt_iff (room : polling.parallel.toNat ≤ maxPermits) {i : Nat} {summary : Summary}
    {t : τ} : MayReturnAt c polling sites i summary t ↔
      MayBringAt c polling.parallel.toNat sites i summary t := by
  unfold MayReturnAt MayBringAt
  simp only [mayReturn_iff room, Except.ok.injEq, Prod.mk.injEq]
  constructor
  · rintro ⟨_, _, ⟨_, _, ⟨rfl, rfl⟩, hbring⟩, hat⟩
    exact ⟨_, _, hbring, hat⟩
  · rintro ⟨_, _, hbring, hat⟩
    exact ⟨_, _, ⟨_, _, ⟨rfl, rfl⟩, hbring⟩, hat⟩

/-- **Isolation and order** in a pass that starts. -/
structure Isolated (c : Settings.Collecting) (polling : Settings.Polling)
    (sites : List (Site σ τ)) : Prop where
  /-- It does not go on forever, and is not stuck before it is over. -/
  ends : ∃ p, launch polling sites = .ok p ∧ ∀ es q, Reaches (Step c sites) p es q →
    Acc (Leads c sites) q ∧ (q.Over ∨ ∃ r, Leads c sites r q)
  /-- What it may return is one summary for each target in their order, with
  what the cycle of this target may bring alone, and any choice of this. -/
  returns : ∀ result, MayReturn c polling sites result ↔
    ∃ summaries sinks, result = .ok (summaries, sinks) ∧ Alone c sites summaries sinks
  /-- The pass that runs is one of them. -/
  runs : ∀ stations, sites = stations.map Station.site →
    MayReturn c polling sites (.ok ((pass c stations).map Visit.summary,
      (pass c stations).map (·.course.sink)))
  /-- For one target the others, and how many permits there are, make no
  difference. -/
  others : ∀ others polling', 1 ≤ polling'.parallel.toNat → polling'.parallel.toNat ≤ maxPermits →
    (∀ y ∈ others, y.world.Total) → ∀ (i : Nat) x, sites[i]? = some x → others[i]? = some x →
      ∀ summary t, MayReturnAt c polling sites i summary t ↔
        MayReturnAt c polling' others i summary t

/-- **Isolation and order.** With a permit at least, and agents on which
every request comes to an end, a pass that asks for no more permits than there
may be is isolated and in order. One that asks for more returns nothing but a
panic. -/
theorem isolated (permitted : 1 ≤ polling.parallel.toNat) (total : ∀ x ∈ sites, x.world.Total) :
    (polling.parallel.toNat ≤ maxPermits → Isolated c polling sites) ∧
      (maxPermits < polling.parallel.toNat → ∀ result,
        MayReturn c polling sites result ↔ result = .error .tooManyPermits) := by
  refine ⟨fun room => ⟨⟨_, launch_eq_ok room sites, fun es q h => ⟨acc_leads c sites q, ?_⟩⟩,
    fun result => ?_, ?_, ?_⟩, fun crowded result => mayReturn_iff_of_crowded crowded⟩
  · by_cases hover : q.Over
    · exact .inl hover
    · exact .inr ((sound_of_reaches h).exists_step permitted total hover)
  · simp only [mayReturn_iff room, mayBring_iff permitted]
  · rintro stations rfl
    exact (mayReturn_iff room).2 ⟨_, _, rfl, mayBring_of_alone permitted (alone_pass c stations)⟩
  · intro others polling' permitted' room' total' i x hx hx' summary t
    rw [mayReturnAt_iff room, mayReturnAt_iff room', mayBringAt_iff permitted total hx,
      mayBringAt_iff permitted' total' hx']

end Launch

/-! ## A dead target beside a healthy one -/

namespace DeadTarget

/-- Statistics are asked for two at a time, and what is affected is
discarded. -/
def settings : Settings.Collecting := ⟨.affectedSubnets, 2⟩

/-- Two targets may be collected from at once. -/
def polling : Settings.Polling := ⟨300, 2⟩

/-- More targets may be collected from at once than there may be permits. -/
def crowded : Settings.Polling := ⟨300, 0x2000000000000000⟩

/-- A target whose agent gives no answer. -/
def dead : Station Nat (List Metric) :=
  ⟨.ofEndpoint "192.0.2.1" 8000, Agent.inTurn [], Sink.memory, 0, []⟩

/-- A target whose agent adds a subnet between the readings. -/
def healthy : Station Nat (List Metric) :=
  ⟨.ofEndpoint "192.0.2.2" 8000, Agent.inTurn Collector.AddedSubnet.replies, Sink.memory, 0, []⟩

end DeadTarget

/-- The dead target fails, and the other does as it would beside another
healthy one. -/
theorem isolated_dead_target :
    1 ≤ DeadTarget.polling.parallel.toNat ∧ DeadTarget.polling.parallel.toNat ≤ maxPermits ∧
      (∀ x ∈ [DeadTarget.dead, DeadTarget.healthy].map Station.site, x.world.Total) ∧
      MayReturn DeadTarget.settings DeadTarget.polling
        ([DeadTarget.dead, DeadTarget.healthy].map Station.site)
        (.ok ((pass DeadTarget.settings [DeadTarget.dead, DeadTarget.healthy]).map Visit.summary,
          (pass DeadTarget.settings [DeadTarget.dead, DeadTarget.healthy]).map (·.course.sink))) ∧
      (DeadTarget.dead.visit DeadTarget.settings).outcome =
        .error (.kea (.transport DeadTarget.dead.target.url)) ∧
      ∀ summary t,
        MayReturnAt DeadTarget.settings DeadTarget.polling
            ([DeadTarget.dead, DeadTarget.healthy].map Station.site) 1 summary t ↔
          MayReturnAt DeadTarget.settings .standard
            ([DeadTarget.healthy, DeadTarget.healthy].map Station.site) 1 summary t := by
  have permitted : 1 ≤ DeadTarget.polling.parallel.toNat := by decide
  have room : DeadTarget.polling.parallel.toNat ≤ maxPermits := by decide
  have total := total_of_stations [DeadTarget.dead, DeadTarget.healthy]
  have hisolated := (isolated (c := DeadTarget.settings) permitted total).1 room
  exact ⟨permitted, room, total, hisolated.runs _ rfl, rfl,
    hisolated.others _ .standard (by decide) (by decide) (total_of_stations _) 1
      DeadTarget.healthy.site rfl rfl⟩

/-- **A pass of two targets may return no summary.** It asks for one permit more
than there may be. -/
theorem mayReturn_crowded :
    1 ≤ DeadTarget.crowded.parallel.toNat ∧
      ∀ result, MayReturn DeadTarget.settings DeadTarget.crowded
        ([DeadTarget.dead, DeadTarget.healthy].map Station.site) result ↔
          result = .error .tooManyPermits := by
  have crowded : maxPermits < DeadTarget.crowded.parallel.toNat := by decide
  exact ⟨by decide, fun result => mayReturn_iff_of_crowded crowded⟩

end Pass

end KeaGauge
