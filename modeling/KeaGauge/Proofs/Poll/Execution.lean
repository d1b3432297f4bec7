import KeaGauge.Poll.Pass
import KeaGauge.Proofs.Cycle.Termination
/-!
# Executions of a pass

`pass` visits its stations one after the other. Here every target has a task
of its own: it waits for one of the permits, runs its cycle step by step,
gives the permit back with its outcome, and has it collected, and any task
that can go on may be the next to do so (`Pass.Step`). What is collected in
any order is put in the order of the targets at the end.

What a task has come to by its own steps is independent of the others
(`TaskState.Reached`). Beside this, `Pass.Sound` says of a pass on its way how many
permits are held and what has been collected.
-/

namespace KeaGauge

open Dialogue (Completes)

variable {σ τ : Type}

/-- A target with its agent, given by how it may answer, and the sink of its
cycle, with their states. -/
structure Site (σ τ : Type) where
  target : Settings.Target
  world : World σ
  sink : Sink τ
  agentState : σ
  sinkState : τ

/-- The site of a station. -/
def Station.site (x : Station σ τ) : Site σ τ :=
  ⟨x.target, x.agent.world, x.sink, x.agentState, x.sinkState⟩

namespace Site

/-- The cycle with the target. -/
def cycle (x : Site σ τ) (c : Settings.Collecting) : Dialogue Outcome :=
  (Collector.ofTarget x.target c).cycle

/-- Where the cycle begins. -/
def opening (x : Site σ τ) (c : Settings.Collecting) : Dialogue.State Outcome σ τ :=
  ⟨.talking (x.cycle c), x.agentState, x.sinkState⟩

/-- **How the cycle may end when it runs alone**: its outcome, and what the
sink is left with. -/
def MayEnd (x : Site σ τ) (c : Settings.Collecting) (outcome : Outcome) (t : τ) : Prop :=
  ∃ trace s, Completes x.world x.sink (x.cycle c) x.agentState x.sinkState trace outcome s t

/-- Alone, a cycle comes to an end. -/
theorem exists_mayEnd {x : Site σ τ} (total : x.world.Total) (c : Settings.Collecting) :
    ∃ outcome t, x.MayEnd c outcome t := by
  have hcoherent : (x.opening c).Coherent := fun _ _ _ h => by simp [opening] at h
  obtain ⟨trace, outcome, s, t, h⟩ := Dialogue.exists_completion total x.sink hcoherent
  exact ⟨outcome, t, trace, s, h⟩

end Site

/-- What a pass tells of a target. -/
structure Summary where
  label : String
  outcome : Outcome

/-- The summary of a visit. -/
def Visit.summary (v : Visit σ τ) : Summary := ⟨v.label, v.outcome⟩

/-! ## Tasks -/

/-- How far the task of a target has come. -/
inductive TaskState (σ τ : Type) where
  | waiting
  | running (state : Dialogue.State Outcome σ τ)
  | finished (outcome : Outcome) (agent : σ) (sink : τ)
  | collected (outcome : Outcome) (agent : σ) (sink : τ)

namespace TaskState

/-- A task holds a permit while it runs. -/
def isRunning : TaskState σ τ → Bool
  | running _ => true
  | _ => false

/-- What the sink is left with, once the outcome is collected. -/
def sink? : TaskState σ τ → Option τ
  | collected _ _ t => some t
  | _ => none

/-- A step of a task. -/
inductive Step (c : Settings.Collecting) (x : Site σ τ) :
    TaskState σ τ → List (Happening σ) → TaskState σ τ → Prop where
  | begin : Step c x .waiting [] (.running (x.opening c))
  | work {a b : Dialogue.State Outcome σ τ} {es : List (Happening σ)}
      (step : Dialogue.Step x.world x.sink a es b) : Step c x (.running a) es (.running b)
  | finish {outcome : Outcome} {s : σ} {t : τ} :
      Step c x (.running ⟨.talking (.done outcome), s, t⟩) [] (.finished outcome s t)
  | collect {outcome : Outcome} {s : σ} {t : τ} :
      Step c x (.finished outcome s t) [] (.collected outcome s t)

/-- **What a task has come to**, given what happened in it. -/
inductive Reached (c : Settings.Collecting) (x : Site σ τ) (own : List (Happening σ)) :
    TaskState σ τ → Prop where
  | waiting (nothing : own = []) : Reached c x own .waiting
  | running {a : Dialogue.State Outcome σ τ}
      (steps : Reaches (Dialogue.Step x.world x.sink) (x.opening c) own a) :
      Reached c x own (.running a)
  | finished {outcome : Outcome} {s : σ} {t : τ}
      (alone : Completes x.world x.sink (x.cycle c) x.agentState x.sinkState own outcome s t) :
      Reached c x own (.finished outcome s t)
  | collected {outcome : Outcome} {s : σ} {t : τ}
      (alone : Completes x.world x.sink (x.cycle c) x.agentState x.sinkState own outcome s t) :
      Reached c x own (.collected outcome s t)

variable {c : Settings.Collecting} {x : Site σ τ} {own more : List (Happening σ)}
variable {task task' : TaskState σ τ}

/-- **Every step keeps this.** -/
theorem Reached.step (h : Reached c x own task) (step : Step c x task more task') :
    Reached c x (own ++ more) task' := by
  cases step with
  | begin =>
    cases h with
    | waiting nothing =>
      rw [nothing]
      exact .running (.refl _)
  | work step =>
    cases h with
    | running steps => exact .running (steps.trans (.single step))
  | finish =>
    rw [List.append_nil]
    cases h with
    | running steps => exact .finished steps
  | collect =>
    rw [List.append_nil]
    cases h with
    | finished alone => exact .collected alone

/-- What a step of a task leads to. -/
def Leads (c : Settings.Collecting) (x : Site σ τ) (task' task : TaskState σ τ) : Prop :=
  ∃ es, Step c x task es task'

/-- **No task goes on forever.** -/
theorem acc_leads (c : Settings.Collecting) (x : Site σ τ) (task : TaskState σ τ) :
    Acc (Leads c x) task := by
  have hcollected : ∀ outcome s t, Acc (Leads c x) (.collected outcome s t) := by
    refine fun outcome s t => ⟨_, ?_⟩
    rintro task' ⟨es, step⟩
    cases step
  have hfinished : ∀ outcome s t, Acc (Leads c x) (.finished outcome s t) := by
    refine fun outcome s t => ⟨_, ?_⟩
    rintro task' ⟨es, step⟩
    cases step with
    | collect => exact hcollected _ _ _
  have hrunning : ∀ a, Acc (Leads c x) (.running a) := by
    intro a
    induction (Dialogue.acc_leads a : Acc (Dialogue.Leads x.world x.sink) a) with
    | intro a _ ih =>
      refine ⟨_, ?_⟩
      rintro task' ⟨es, step⟩
      cases step with
      | work step => exact ih _ ⟨_, step⟩
      | finish => exact hfinished _ _ _
  cases task with
  | waiting =>
    refine ⟨_, ?_⟩
    rintro task' ⟨es, step⟩
    cases step with
    | begin => exact hrunning _
  | running a => exact hrunning a
  | finished outcome s t => exact hfinished outcome s t
  | collected outcome s t => exact hcollected outcome s t

end TaskState

/-! ## Passes -/

namespace Pass

/-- A pass on its way: how far the tasks of its targets are, how many permits
are free, and the summaries that were collected, each with the place of its
target. -/
structure State (σ τ : Type) where
  tasks : List (TaskState σ τ)
  free : Nat
  collected : List (Nat × Summary)

/-- All tasks wait. -/
def start (permits : Nat) (sites : List (Site σ τ)) : State σ τ :=
  ⟨List.replicate sites.length .waiting, permits, []⟩

/-- A step of a pass: a task takes a free permit, or takes a step of its
cycle, or gives its permit back, or has its outcome collected. Its happenings
carry the place of the task. -/
inductive Step (c : Settings.Collecting) (sites : List (Site σ τ)) :
    State σ τ → List (Nat × Happening σ) → State σ τ → Prop where
  | acquire {p : State σ τ} {i : Nat} {x : Site σ τ} (here : sites[i]? = some x)
      (waits : p.tasks[i]? = some .waiting) (room : 0 < p.free) :
      Step c sites p []
        { p with tasks := p.tasks.set i (.running (x.opening c)), free := p.free - 1 }
  | work {p : State σ τ} {i : Nat} {x : Site σ τ} {a b : Dialogue.State Outcome σ τ}
      {es : List (Happening σ)} (here : sites[i]? = some x)
      (runs : p.tasks[i]? = some (.running a)) (step : Dialogue.Step x.world x.sink a es b) :
      Step c sites p (es.map (Prod.mk i)) { p with tasks := p.tasks.set i (.running b) }
  | finish {p : State σ τ} {i : Nat} {x : Site σ τ} {outcome : Outcome} {s : σ} {t : τ}
      (here : sites[i]? = some x)
      (runs : p.tasks[i]? = some (.running ⟨.talking (.done outcome), s, t⟩)) :
      Step c sites p []
        { p with tasks := p.tasks.set i (.finished outcome s t), free := p.free + 1 }
  | collect {p : State σ τ} {i : Nat} {x : Site σ τ} {outcome : Outcome} {s : σ} {t : τ}
      (here : sites[i]? = some x) (ended : p.tasks[i]? = some (.finished outcome s t)) :
      Step c sites p []
        { p with
          tasks := p.tasks.set i (.collected outcome s t),
          collected := p.collected ++ [(i, ⟨x.target.label, outcome⟩)] }

/-- A pass is over when every outcome is collected. -/
def State.Over (p : State σ τ) : Prop :=
  ∀ task ∈ p.tasks, ∃ outcome s t, task = .collected outcome s t

/-- **The summaries of a pass**, in the order of its targets. -/
def State.summaries (p : State σ τ) : List Summary :=
  (p.collected.mergeSort fun a b => decide (a.1 ≤ b.1)).map (·.2)

/-- What the sinks are left with. -/
def State.sinks (p : State σ τ) : List τ := p.tasks.filterMap TaskState.sink?

/-- How many permits are held. -/
def State.held (p : State σ τ) : Nat := p.tasks.countP TaskState.isRunning

/-- What happened in the task at a place. -/
def own (i : Nat) (es : List (Nat × Happening σ)) : List (Happening σ) :=
  es.filterMap fun e => if e.1 = i then some e.2 else none

theorem own_append (i : Nat) (es fs : List (Nat × Happening σ)) :
    own i (es ++ fs) = own i es ++ own i fs :=
  List.filterMap_append

theorem own_map_self (i : Nat) (es : List (Happening σ)) : own i (es.map (Prod.mk i)) = es := by
  rw [own, List.filterMap_map]
  simp

theorem own_map_ne {i j : Nat} (h : j ≠ i) (es : List (Happening σ)) :
    own i (es.map (Prod.mk j)) = [] := by
  rw [own, List.filterMap_map, List.filterMap_eq_nil_iff]
  simp [h]

variable {c : Settings.Collecting} {sites : List (Site σ τ)} {p q : State σ τ}
variable {es fs : List (Nat × Happening σ)} {permits : Nat}

/-- **A step of a pass is a step of one of its tasks.** -/
theorem Step.moves (step : Step c sites p es q) :
    ∃ i x task more task', sites[i]? = some x ∧ p.tasks[i]? = some task ∧
      TaskState.Step c x task more task' ∧ q.tasks = p.tasks.set i task' ∧
      es = more.map (Prod.mk i) := by
  cases step with
  | acquire here waits _ => exact ⟨_, _, _, [], _, here, waits, .begin, rfl, rfl⟩
  | work here runs step => exact ⟨_, _, _, _, _, here, runs, .work step, rfl, rfl⟩
  | finish here runs => exact ⟨_, _, _, [], _, here, runs, .finish, rfl, rfl⟩
  | collect here ended => exact ⟨_, _, _, [], _, here, ended, .collect, rfl, rfl⟩

/-- **What holds of a pass on its way**, given what happened so far. -/
structure Sound (c : Settings.Collecting) (sites : List (Site σ τ)) (permits : Nat)
    (es : List (Nat × Happening σ)) (p : State σ τ) : Prop where
  length_eq : p.tasks.length = sites.length
  /-- Each task came where it is by its own steps. -/
  reached : ∀ (i : Nat) (x : Site σ τ) (task : TaskState σ τ), sites[i]? = some x →
    p.tasks[i]? = some task → TaskState.Reached c x (own i es) task
  permits_eq : p.held + p.free = permits
  /-- No outcome is collected twice. -/
  nodup : (p.collected.map Prod.fst).Nodup
  mem_collected : ∀ (i : Nat) (summary : Summary), (i, summary) ∈ p.collected ↔
    ∃ x outcome s t, sites[i]? = some x ∧ p.tasks[i]? = some (.collected outcome s t) ∧
      summary = ⟨x.target.label, outcome⟩

theorem Sound.start (c : Settings.Collecting) (sites : List (Site σ τ)) (permits : Nat) :
    Sound c sites permits [] (Pass.start permits sites) where
  length_eq := List.length_replicate
  reached i x task _ htask := by
    obtain ⟨-, rfl⟩ := List.mem_replicate.1 (List.mem_of_getElem? htask)
    exact .waiting rfl
  permits_eq := by
    have hnone : (Pass.start permits sites).held = 0 :=
      List.countP_eq_zero.2 fun task htask => by
        obtain ⟨-, rfl⟩ := List.mem_replicate.1 htask
        exact Bool.false_ne_true
    rw [hnone, Nat.zero_add]
    rfl
  nodup := List.nodup_nil
  mem_collected i summary := by
    refine ⟨fun h => absurd h List.not_mem_nil, ?_⟩
    rintro ⟨x, outcome, s, t, -, htask, -⟩
    obtain ⟨-, hwaits⟩ := List.mem_replicate.1 (List.mem_of_getElem? htask)
    exact absurd hwaits (by simp)

/-- The number of tasks that run, when one of them is set. -/
theorem countP_set {tasks : List (TaskState σ τ)} {i : Nat} {task : TaskState σ τ}
    (h : tasks[i]? = some task) (task' : TaskState σ τ) :
    (tasks.set i task').countP TaskState.isRunning + task.isRunning.toNat =
      tasks.countP TaskState.isRunning + task'.isRunning.toNat := by
  induction tasks generalizing i with
  | nil => simp at h
  | cons first rest ih =>
    cases i with
    | zero =>
      obtain rfl : first = task := by simpa using h
      cases hfirst : first.isRunning <;> cases htask : task'.isRunning <;> simp [hfirst, htask]
    | succ i =>
      have hrest := ih (i := i) (by simpa using h)
      simp only [List.set_cons_succ, List.countP_cons]
      omega

/-- Which outcomes are collected, when a task is set whose outcome was not. -/
theorem getElem?_set_eq_collected_iff {tasks : List (TaskState σ τ)} {i j : Nat}
    {task task' : TaskState σ τ}
    {outcome : Outcome} {s : σ} {t : τ} (h : tasks[i]? = some task)
    (hopen : ∀ outcome s t, task ≠ .collected outcome s t) :
    (tasks.set i task')[j]? = some (.collected outcome s t) ↔
      tasks[j]? = some (.collected outcome s t) ∨ (j = i ∧ task' = .collected outcome s t) := by
  have hlt := (List.getElem?_eq_some_iff.1 h).1
  rw [List.getElem?_set]
  by_cases hij : i = j
  · subst hij
    rw [if_pos rfl, if_pos hlt, h]
    simp [hopen]
  · simp [hij, Ne.symm hij]

/-- Each task came where it is by its own steps, also after a further one. -/
theorem Sound.reached_step (h : Sound c sites permits es p) (step : Step c sites p fs q) {i : Nat}
    {x : Site σ τ} {task : TaskState σ τ} (hx : sites[i]? = some x)
    (htask : q.tasks[i]? = some task) :
    TaskState.Reached c x (own i (es ++ fs)) task := by
  obtain ⟨j, y, before, more, after, hy, hbefore, hstep, htasks, rfl⟩ := step.moves
  rw [htasks, List.getElem?_set] at htask
  rw [own_append]
  by_cases hji : j = i
  · subst hji
    obtain rfl : y = x := Option.some.inj (hy.symm.trans hx)
    rw [if_pos rfl] at htask
    split at htask
    · obtain rfl := Option.some.inj htask
      rw [own_map_self]
      exact (h.reached j y before hx hbefore).step hstep
    · simp at htask
  · rw [if_neg hji] at htask
    rw [own_map_ne hji, List.append_nil]
    exact h.reached i x task hx htask

/-- A step that collects nothing leaves what was collected as it is. -/
theorem Sound.mem_collected_set (h : Sound c sites permits es p) {i : Nat}
    {task task' : TaskState σ τ}
    (htask : p.tasks[i]? = some task) (hopen : ∀ outcome s t, task ≠ .collected outcome s t)
    (hopen' : ∀ outcome s t, task' ≠ .collected outcome s t) (j : Nat) (summary : Summary) :
    (j, summary) ∈ p.collected ↔
      ∃ x outcome s t, sites[j]? = some x ∧
        (p.tasks.set i task')[j]? = some (.collected outcome s t) ∧
        summary = ⟨x.target.label, outcome⟩ := by
  rw [h.mem_collected]
  simp only [getElem?_set_eq_collected_iff htask hopen, hopen', and_false, or_false]

/-- **No step loses a permit or makes one.** -/
theorem Sound.permits_step (h : Sound c sites permits es p) (step : Step c sites p fs q) :
    q.held + q.free = permits := by
  have hpermits := h.permits_eq
  cases step with
  | @acquire i x _ waits room =>
    have hheld := countP_set waits (.running (x.opening c))
    simp only [State.held, TaskState.isRunning, Bool.toNat_false, Bool.toNat_true] at *
    omega
  | @work i x a b _ _ runs _ =>
    have hheld := countP_set runs (.running b)
    simp only [State.held, TaskState.isRunning, Bool.toNat_true] at *
    omega
  | @finish i x outcome s t _ runs =>
    have hheld := countP_set runs (.finished outcome s t)
    simp only [State.held, TaskState.isRunning, Bool.toNat_false, Bool.toNat_true] at *
    omega
  | @collect i x outcome s t _ ended =>
    have hheld := countP_set ended (.collected outcome s t)
    simp only [State.held, TaskState.isRunning, Bool.toNat_false] at *
    omega

/-- What a finished task leaves is collected once. -/
theorem Sound.collect (h : Sound c sites permits es p) {i : Nat} {x : Site σ τ} {outcome : Outcome}
    {s : σ} {t : τ} (here : sites[i]? = some x)
    (ended : p.tasks[i]? = some (.finished outcome s t)) :
    ((p.collected ++ [(i, Summary.mk x.target.label outcome)]).map Prod.fst).Nodup ∧
      ∀ (j : Nat) (summary : Summary),
        (j, summary) ∈ p.collected ++ [(i, Summary.mk x.target.label outcome)] ↔
          ∃ y outcome' s' t', sites[j]? = some y ∧
            (p.tasks.set i (.collected outcome s t))[j]? = some (.collected outcome' s' t') ∧
            summary = ⟨y.target.label, outcome'⟩ := by
  constructor
  · -- the outcome of a finished task was not collected before
    have hnew : i ∉ p.collected.map Prod.fst := by
      intro hi
      obtain ⟨⟨j, summary⟩, hmem, rfl⟩ := List.mem_map.1 hi
      obtain ⟨_, _, _, _, -, hcollected, -⟩ := (h.mem_collected j summary).1 hmem
      rw [hcollected] at ended
      exact absurd ended (by simp)
    rw [List.map_append, List.nodup_append]
    refine ⟨h.nodup, by simp, fun j hj k hk => ?_⟩
    obtain rfl : k = i := by simpa using hk
    rintro rfl
    exact hnew hj
  · intro j summary
    rw [List.mem_append, h.mem_collected, List.mem_singleton]
    simp only [getElem?_set_eq_collected_iff ended (by simp : ∀ outcome' s' t', _ ≠ _)]
    constructor
    · rintro (⟨y, o, s', t', hy, hcollected, rfl⟩ | hnew)
      · exact ⟨y, o, s', t', hy, .inl hcollected, rfl⟩
      · obtain ⟨rfl, rfl⟩ := Prod.mk.inj hnew
        exact ⟨x, outcome, s, t, here, .inr ⟨rfl, rfl⟩, rfl⟩
    · rintro ⟨y, o, s', t', hy, hcollected | ⟨rfl, hsame⟩, rfl⟩
      · exact .inl ⟨y, o, s', t', hy, hcollected, rfl⟩
      · obtain rfl : x = y := Option.some.inj (here.symm.trans hy)
        obtain ⟨rfl, -, -⟩ := TaskState.collected.inj hsame
        exact .inr rfl

/-- **Every step keeps it.** -/
theorem Sound.step (h : Sound c sites permits es p) (step : Step c sites p fs q) :
    Sound c sites permits (es ++ fs) q := by
  have hlength : q.tasks.length = sites.length := by
    obtain ⟨_, _, _, _, _, -, -, -, htasks, -⟩ := step.moves
    rw [htasks, List.length_set]
    exact h.length_eq
  have hcollected : (q.collected.map Prod.fst).Nodup ∧
      ∀ (i : Nat) (summary : Summary), (i, summary) ∈ q.collected ↔
        ∃ x outcome s t, sites[i]? = some x ∧ q.tasks[i]? = some (.collected outcome s t) ∧
          summary = ⟨x.target.label, outcome⟩ := by
    cases step with
    | acquire _ waits _ => exact ⟨h.nodup, h.mem_collected_set waits (by simp) (by simp)⟩
    | work _ runs _ => exact ⟨h.nodup, h.mem_collected_set runs (by simp) (by simp)⟩
    | finish _ runs => exact ⟨h.nodup, h.mem_collected_set runs (by simp) (by simp)⟩
    | collect here ended => exact h.collect here ended
  exact ⟨hlength, fun i x task hx htask => h.reached_step step hx htask, h.permits_step step,
    hcollected.1, hcollected.2⟩

/-- **It holds throughout a pass.** -/
theorem sound_of_reaches (h : Reaches (Step c sites) (start permits sites) es p) :
    Sound c sites permits es p :=
  h.invariant (fun _ _ _ _ hold step => Sound.step hold step) [] (.start c sites permits)

end Pass

end KeaGauge
