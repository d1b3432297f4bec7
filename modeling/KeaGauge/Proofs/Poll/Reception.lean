import KeaGauge.Poll.Launch
import KeaGauge.Proofs.Carbon.Reception
import KeaGauge.Proofs.Cycle.Delivery
import KeaGauge.Proofs.Poll.Isolation
import KeaGauge.Proofs.Settings.Launch
import Mathlib.Algebra.BigOperators.Group.Finset.Basic
import Mathlib.Algebra.Order.BigOperators.Group.Finset
/-!
# A pass with one receiver

The cycles of a pass write to one receiver, each over connections of its own.
The lines of a connection arrive in their order, and those of different
connections in any order, while the pass goes on and after it is over
(`Reception.Step`). So what has arrived of a target is at any time the start of
what its cycle has handed over (`Reception.Sound`), and when all is settled it
is all of it, as many lines as the summary of the target says
(`Reception.conserved`).
-/

namespace KeaGauge

open Carbon (Receiver Writer PathScheme escape)
open Settings (Target)

variable {σ : Type}

/-- The lines of a metric of a target: one under its subnet, and with paths
under servers another one under the address and the port of the target. -/
def Settings.Carbon.linesOf (s : Settings.Carbon) (t : Target) (m : Metric) : List String :=
  let scheme := PathScheme.ofRoot s.root
  let server := escape t.address ++ "_" ++ Nat.repr t.port.toNat
  let paths := scheme.subnetPath m.cidr m.key ::
    if s.perServerPaths then [scheme.pathUnder server m.cidr m.key] else []
  paths.map fun path => path ++ " " ++ Int.repr m.value ++ " " ++ Int.repr m.instant.epoch

/-- How many lines a metric has. -/
def Settings.Carbon.linesPerMetric (s : Settings.Carbon) : Nat := if s.perServerPaths then 2 else 1

/-- The sites of the targets, each with an agent and with connections of its
own to a receiver that is up. -/
def Settings.sites (s : Settings) (worlds : Nat → World σ) (states : Nat → σ) :
    List (Site σ Receiver) :=
  s.targets.mapIdx fun i t =>
    ⟨t, worlds i, ((Writer.ofSettings s.carbon).forTarget t).sink, states i, .fresh⟩

/-- The stations of the targets, when the agents answer in one way only. -/
def Settings.stations (s : Settings) (agents : Nat → Agent σ) (states : Nat → σ) :
    List (Station σ Receiver) :=
  s.targets.mapIdx fun i t =>
    ⟨t, agents i, ((Writer.ofSettings s.carbon).forTarget t).sink, states i, .fresh⟩

theorem Settings.stations_site (s : Settings) (agents : Nat → Agent σ) (states : Nat → σ) :
    (s.stations agents states).map Station.site = s.sites (fun i => (agents i).world) states :=
  List.ext_getElem (by simp [Settings.stations, Settings.sites]) fun i _ _ => by
    simp [Settings.stations, Settings.sites, Station.site]

/-- What the sink of a task has come to, once it has begun. -/
def TaskState.sinkState? {τ : Type} : TaskState σ τ → Option τ
  | waiting => none
  | running a => some a.sink
  | finished _ _ t | collected _ _ t => some t

/-! ## Lines on their way -/

/-- A pass on its way, and the lines that have arrived at the receiver, each
with the place of the target whose connection brought it. -/
structure Reception (σ : Type) where
  pass : Pass.State σ Receiver
  arrived : List (Nat × String)

namespace Reception

/-- What has been written for the target at a place. -/
def written (p : Pass.State σ Receiver) (i : Nat) : List String :=
  ((p.tasks[i]?.bind TaskState.sinkState?).map (·.lines)).getD []

/-- What has arrived from the target at a place. -/
def fromPlace (i : Nat) (arrived : List (Nat × String)) : List String :=
  arrived.filterMap fun x => if x.1 = i then some x.2 else none

/-- Before a pass nothing has arrived. -/
def start (permits : Permits) (sites : List (Site σ Receiver)) : Reception σ :=
  ⟨Pass.start permits.count sites, []⟩

/-- A step: of the pass, or the next line of a target arrives. -/
inductive Step (c : Settings.Collecting) (sites : List (Site σ Receiver)) :
    Reception σ → List (Nat × Happening σ) → Reception σ → Prop where
  | go {p q : Pass.State σ Receiver} {arrived : List (Nat × String)}
      {es : List (Nat × Happening σ)} (step : Pass.Step c sites p es q) :
      Step c sites ⟨p, arrived⟩ es ⟨q, arrived⟩
  | arrive {p : Pass.State σ Receiver} {arrived : List (Nat × String)} {i : Nat} {line : String}
      (next : (written p i)[(fromPlace i arrived).length]? = some line) :
      Step c sites ⟨p, arrived⟩ [] ⟨p, arrived ++ [(i, line)]⟩

/-- All is settled: the pass is over, and from each target as many lines have
arrived as were written. -/
def Settled (r : Reception σ) : Prop :=
  r.pass.Over ∧ ∀ i, (fromPlace i r.arrived).length = (written r.pass i).length

/-- What a step leads to. -/
def Leads (c : Settings.Collecting) (sites : List (Site σ Receiver)) (q r : Reception σ) : Prop :=
  ∃ es, Step c sites r es q

/-- The metrics that were handed over for the target at a place, in their
order. -/
def handedAt (i : Nat) (es : List (Nat × Happening σ)) : List Metric :=
  (Happening.batches (Pass.own i es)).flatten

theorem fromPlace_append (i : Nat) (arrived more : List (Nat × String)) :
    fromPlace i (arrived ++ more) = fromPlace i arrived ++ fromPlace i more :=
  List.filterMap_append

theorem fromPlace_single (i j : Nat) (line : String) :
    fromPlace i [(j, line)] = if j = i then [line] else [] := by
  by_cases h : j = i <;> simp [fromPlace, h]

theorem handedAt_append (i : Nat) (es fs : List (Nat × Happening σ)) :
    handedAt i (es ++ fs) = handedAt i es ++ handedAt i fs := by
  rw [handedAt, Pass.own_append, Happening.batches_append, List.flatten_append]
  rfl

/-- **All lines are from somewhere.** -/
theorem length_eq_sum {arrived : List (Nat × String)} {n : Nat} (h : ∀ x ∈ arrived, x.1 < n) :
    arrived.length = ∑ i ∈ Finset.range n, (fromPlace i arrived).length := by
  induction arrived with
  | nil => simp [fromPlace]
  | cons x rest ih =>
    obtain ⟨hx, hrest⟩ := List.forall_mem_cons.1 h
    have hcons : ∀ i, (fromPlace i (x :: rest)).length =
        (fromPlace i rest).length + if x.1 = i then 1 else 0 := by
      intro i
      by_cases hi : x.1 = i <;> simp [fromPlace, hi]
    have hmem : x.1 ∈ Finset.range n := Finset.mem_range.2 hx
    simp only [hcons, Finset.sum_add_distrib, ← ih hrest, Finset.sum_ite_eq, hmem, if_true,
      List.length_cons]

/-! ## What a sink of the pass has written -/

section Writing

variable {s : Settings} {worlds : Nat → World σ} {states : Nat → σ} {t : Target} {i : Nat}
variable {p q : Pass.State σ Receiver} {es fs : List (Nat × Happening σ)} {permits : Nat}

/-- The root and the addresses of settings are each in one line. -/
def Unbroken (s : Settings) : Prop :=
  Carbon.IsUnbroken s.carbon.root ∧ ∀ t ∈ s.targets, Carbon.IsUnbroken t.address

instance (s : Settings) : Decidable (Unbroken s) := inferInstanceAs (Decidable (_ ∧ _))

theorem Unbroken.scheme (h : Unbroken s) (ht : t ∈ s.targets) :
    ((Writer.ofSettings s.carbon).forTarget t).scheme.IsUnbroken := by
  obtain ⟨hroot, haddress⟩ := h
  have hserver : Carbon.IsUnbroken (escape t.address ++ "_" ++ Nat.repr t.port.toNat) := by
    rw [Carbon.isUnbroken_append, Carbon.isUnbroken_append, Carbon.isUnbroken_escape]
    exact ⟨⟨haddress t ht, by decide⟩, (Carbon.isPlain_natRepr _).isUnbroken⟩
  unfold Writer.forTarget
  split
  · exact ⟨hroot, fun server hmem => by
      rwa [← Option.some.inj hmem]⟩
  · exact ⟨hroot, fun server hmem => absurd hmem (by simp [Writer.ofSettings, PathScheme.ofRoot])⟩

/-- The lines of the writer for a target are those of its metrics. -/
theorem texts_forTarget (s : Settings.Carbon) (t : Target) (batch : List Metric) :
    ((Writer.ofSettings s).forTarget t).texts batch = batch.flatMap (s.linesOf t) := by
  rw [Writer.texts_eq_flatMap]
  refine List.flatMap_congr fun m _ => ?_
  cases hserver : s.perServerPaths <;>
    simp [Settings.Carbon.linesOf, Writer.forTarget, Writer.ofSettings, PathScheme.paths,
      PathScheme.serverPath?, PathScheme.subnetPath, PathScheme.withServer, PathScheme.ofRoot,
      PathScheme.pathUnder, hserver]

theorem length_linesOf (s : Settings.Carbon) (t : Target) (m : Metric) :
    (s.linesOf t m).length = s.linesPerMetric := by
  cases hserver : s.perServerPaths <;>
    simp [Settings.Carbon.linesOf, Settings.Carbon.linesPerMetric, hserver]

/-- A receiver that is up gets the lines of all batches. -/
theorem after_sink {w : Writer} {r : Receiver} (h : w.scheme.IsUnbroken) (up : r.isUp = true)
    (batches : List (List Metric)) :
    w.sink.after r batches = { r with lines := r.lines ++ w.texts batches.flatten } := by
  induction batches generalizing r with
  | nil =>
    have hnone : w.texts [] = [] := rfl
    rw [List.flatten_nil, hnone, List.append_nil]
    rfl
  | cons batch rest ih =>
    have hrest := ih (r := { r with lines := r.lines ++ w.texts batch }) up
    rw [List.flatten_cons, Writer.texts_append, ← List.append_assoc, ← hrest, Sink.after,
      List.foldl_cons, Writer.sink_eq h up]
    rfl

/-- What a task has come to is what its sink has made of its batches. -/
theorem sinkState_of_reached {τ : Type} {c : Settings.Collecting} {x : Site σ τ}
    {own : List (Happening σ)} {task : TaskState σ τ} (h : TaskState.Reached c x own task) :
    task.sinkState?.getD x.sinkState = x.sink.after x.sinkState (Happening.batches own) := by
  cases h with
  | waiting nothing =>
    rw [nothing]
    rfl
  | running steps => exact Dialogue.sink_of_reaches steps
  | finished alone => exact alone.sink_eq
  | collected alone => exact alone.sink_eq

theorem getElem?_sites (worlds : Nat → World σ) (states : Nat → σ)
    (h : s.targets[i]? = some t) :
    (s.sites worlds states)[i]? =
      some ⟨t, worlds i, ((Writer.ofSettings s.carbon).forTarget t).sink, states i, .fresh⟩ := by
  rw [Settings.sites, List.getElem?_mapIdx, h]
  rfl

theorem length_sites : (s.sites worlds states).length = s.targets.length :=
  List.length_mapIdx

/-- **What has been written for a target** are the lines of the metrics handed
over for it, in their order. -/
theorem written_eq (h : Pass.Sound s.collecting (s.sites worlds states) permits es p)
    (hs : Unbroken s) (ht : s.targets[i]? = some t) :
    written p i = (handedAt i es).flatMap (s.carbon.linesOf t) := by
  have hx := getElem?_sites worlds states ht
  have hi : i < p.tasks.length := by
    rw [h.length_eq, length_sites]
    exact (List.getElem?_eq_some_iff.1 ht).1
  have htask : p.tasks[i]? = some p.tasks[i] := List.getElem?_eq_getElem hi
  have hsink := sinkState_of_reached (h.reached i _ _ hx htask)
  rw [after_sink (hs.scheme (List.mem_of_getElem? ht)) rfl, texts_forTarget] at hsink
  rw [written, htask, Option.bind_some]
  have hlines := congrArg Receiver.lines hsink
  cases hstate : p.tasks[i].sinkState? with
  | none => simpa [hstate, Receiver.fresh, handedAt] using hlines
  | some r => simpa [hstate, Receiver.fresh, handedAt] using hlines

/-- Nothing is written where there is no target. -/
theorem written_eq_nil (h : Pass.Sound s.collecting (s.sites worlds states) permits es p)
    (hi : s.targets.length ≤ i) : written p i = [] := by
  have hnone : p.tasks[i]? = none := by
    rw [List.getElem?_eq_none_iff, h.length_eq, length_sites]
    exact hi
  rw [written, hnone]
  rfl

/-- **What has been written stays written**, and more follows it. -/
theorem written_grows (h : Pass.Sound s.collecting (s.sites worlds states) permits es p)
    (h' : Pass.Sound s.collecting (s.sites worlds states) permits (es ++ fs) q)
    (hs : Unbroken s) (i : Nat) : written p i <+: written q i := by
  cases ht : s.targets[i]? with
  | none =>
    rw [written_eq_nil h (List.getElem?_eq_none_iff.1 ht)]
    exact List.nil_prefix
  | some t =>
    rw [written_eq h hs ht, written_eq h' hs ht, handedAt_append, List.flatMap_append]
    exact List.prefix_append _ _

end Writing

/-! ## What holds on the way -/

/-- **What holds of a reception on its way**: what holds of the pass, and of
each target the start of what was written has arrived. -/
structure Sound (s : Settings) (worlds : Nat → World σ) (states : Nat → σ) (permits : Permits)
    (es : List (Nat × Happening σ)) (r : Reception σ) : Prop where
  pass : Pass.Sound s.collecting (s.sites worlds states) permits.count es r.pass
  arrived : ∀ i, fromPlace i r.arrived <+: written r.pass i

section Sound

variable {s : Settings} {worlds : Nat → World σ} {states : Nat → σ} {permits : Permits}
variable {es fs : List (Nat × Happening σ)} {r q : Reception σ}

/-- The start of a list with the next element behind it is a start too. -/
theorem prefix_concat {E : Type} {l whole : List E} {x : E} (h : l <+: whole)
    (next : whole[l.length]? = some x) : l ++ [x] <+: whole := by
  obtain ⟨rest, rfl⟩ := h
  rw [List.getElem?_append_right le_rfl, Nat.sub_self] at next
  cases rest with
  | nil => exact absurd next (by simp)
  | cons y rest =>
    obtain rfl : y = x := by simpa using next
    exact ⟨rest, by simp⟩

theorem Sound.start (s : Settings) (worlds : Nat → World σ) (states : Nat → σ)
    (permits : Permits) :
    Sound s worlds states permits [] (.start permits (s.sites worlds states)) :=
  ⟨Pass.Sound.start _ _ _, fun _ => List.nil_prefix⟩

/-- **Every step keeps it.** -/
theorem Sound.step (hs : Unbroken s) (h : Sound s worlds states permits es r)
    (step : Step s.collecting (s.sites worlds states) r fs q) :
    Sound s worlds states permits (es ++ fs) q := by
  cases step with
  | go step =>
    have hpass := h.pass.step step
    exact ⟨hpass, fun i => (h.arrived i).trans (written_grows h.pass hpass hs i)⟩
  | @arrive p arrived i line next =>
    rw [List.append_nil]
    refine ⟨h.pass, fun j => ?_⟩
    change fromPlace j (arrived ++ [(i, line)]) <+: _
    rw [fromPlace_append, fromPlace_single]
    by_cases hij : i = j
    · subst hij
      rw [if_pos rfl]
      exact prefix_concat (h.arrived i) next
    · rw [if_neg hij, List.append_nil]
      exact h.arrived j

/-- **It holds throughout.** -/
theorem sound_of_reaches (hs : Unbroken s)
    (h : Reaches (Step s.collecting (s.sites worlds states))
      (.start permits (s.sites worlds states)) es r) :
    Sound s worlds states permits es r :=
  h.invariant (fun _ _ _ _ hold step => Sound.step hs hold step) []
    (.start s worlds states permits)

/-- Lines are from targets only. -/
theorem Sound.lt_of_mem (h : Sound s worlds states permits es r) {x : Nat × String}
    (hx : x ∈ r.arrived) : x.1 < s.targets.length := by
  by_contra hge
  have hnone := h.arrived x.1
  rw [written_eq_nil h.pass (Nat.le_of_not_lt hge), List.prefix_nil] at hnone
  have hmem : x.2 ∈ fromPlace x.1 r.arrived := List.mem_filterMap.2 ⟨x, hx, if_pos rfl⟩
  rw [hnone] at hmem
  exact absurd hmem List.not_mem_nil

end Sound

/-! ## What is left when all is settled -/

/-- **What has come of a pass with all its lines**: a summary for each target,
and in all as many lines as the outcomes say. The lines of a target are those of
the metrics handed over for it, in their order, as many as its outcome says, and
none when this is barren. -/
structure Conserved (s : Settings) (es : List (Nat × Happening σ)) (r : Reception σ) : Prop where
  summarised : r.pass.summaries.length = s.targets.length
  total : r.arrived.length =
    (r.pass.summaries.map (·.outcome.emitted)).sum * s.carbon.linesPerMetric
  each : ∀ (i : Nat) (t : Target), s.targets[i]? = some t → ∃ outcome,
    r.pass.summaries[i]? = some ⟨t.label, outcome⟩ ∧
      (handedAt i es).length = outcome.emitted ∧
      fromPlace i r.arrived = (handedAt i es).flatMap (s.carbon.linesOf t) ∧
      (outcome.Barren s.collecting.policy → fromPlace i r.arrived = [])

/-- A sum over the places of a list, when each place has what its element
says. -/
theorem sum_range_eq {E : Type} {l : List E} {f : E → Nat} {g : Nat → Nat}
    (h : ∀ (i : Nat) (e : E), l[i]? = some e → g i = f e) :
    ∑ i ∈ Finset.range l.length, g i = (l.map f).sum := by
  induction l generalizing g with
  | nil => rfl
  | cons e rest ih =>
    have hrest := ih (g := fun i => g (i + 1)) fun i x hx => h (i + 1) x hx
    rw [List.length_cons, Finset.sum_range_succ', hrest, h 0 e rfl, List.map_cons, List.sum_cons,
      Nat.add_comm]

section Settled

variable {s : Settings} {worlds : Nat → World σ} {states : Nat → σ} {permits : Permits}
variable {es : List (Nat × Happening σ)} {r : Reception σ} {i : Nat} {t : Target}

/-- When all is settled, all that was written has arrived. -/
theorem Sound.fromPlace_eq (h : Sound s worlds states permits es r) (settled : r.Settled)
    (i : Nat) : fromPlace i r.arrived = written r.pass i :=
  (h.arrived i).eq_of_length (settled.2 i)

/-- **A target whose outcome is collected**: its summary, what was handed over
for it, and what was written. -/
theorem Sound.collected (h : Sound s worlds states permits es r) (hs : Unbroken s)
    (hover : r.pass.Over) (ht : s.targets[i]? = some t) :
    ∃ outcome, r.pass.summaries[i]? = some ⟨t.label, outcome⟩ ∧
      (handedAt i es).length = outcome.emitted ∧
      (outcome.Barren s.collecting.policy → written r.pass i = []) := by
  have hx := getElem?_sites worlds states ht
  have hi : i < r.pass.tasks.length := by
    rw [h.pass.length_eq]
    exact (List.getElem?_eq_some_iff.1 hx).1
  obtain ⟨outcome, agent, sink, htask⟩ := hover.collected_at hi
  have hsummary := (h.pass.summaries_eq hover).2 i _ outcome agent sink hx htask
  have hscheme := hs.scheme (List.mem_of_getElem? ht)
  cases h.pass.reached i _ _ hx htask with
  | collected alone =>
    obtain ⟨hlength, hbarren⟩ := Collector.emitted_of_completes alone fun batch =>
      congrArg Prod.fst (Writer.sink_eq hscheme rfl batch)
    refine ⟨outcome, hsummary, hlength, fun hnothing => ?_⟩
    rw [written_eq h.pass hs ht, handedAt, hbarren hnothing]
    rfl

/-- **The lines of a target** are as many as its outcome says. -/
theorem length_written (h : Sound s worlds states permits es r) (hs : Unbroken s)
    (ht : s.targets[i]? = some t) {outcome : Outcome}
    (hemitted : (handedAt i es).length = outcome.emitted) :
    (written r.pass i).length = outcome.emitted * s.carbon.linesPerMetric := by
  rw [written_eq h.pass hs ht, List.length_flatMap, ← hemitted]
  simp only [length_linesOf, List.map_const', List.sum_replicate_nat]

/-- **Nothing is lost and nothing is made up.** -/
theorem Sound.conserved_of_settled (h : Sound s worlds states permits es r) (hs : Unbroken s)
    (settled : r.Settled) : Conserved s es r := by
  have hsummarised : r.pass.summaries.length = s.targets.length :=
    (h.pass.summaries_eq settled.1).1.trans length_sites
  have heach : ∀ (j : Nat) (summary : Summary), r.pass.summaries[j]? = some summary →
      (fromPlace j r.arrived).length = summary.outcome.emitted * s.carbon.linesPerMetric := by
    intro j summary hsummary
    have hj : j < s.targets.length := hsummarised ▸ (List.getElem?_eq_some_iff.1 hsummary).1
    have ht : s.targets[j]? = some s.targets[j] := List.getElem?_eq_getElem hj
    obtain ⟨outcome, hsummary', hemitted, -⟩ := h.collected hs settled.1 ht
    obtain rfl := Option.some.inj (hsummary.symm.trans hsummary')
    rw [h.fromPlace_eq settled, length_written h hs ht hemitted]
  refine ⟨hsummarised, ?_, fun i t ht => ?_⟩
  · rw [length_eq_sum fun _ => h.lt_of_mem, ← hsummarised, sum_range_eq heach,
      List.sum_map_mul_right]
  · obtain ⟨outcome, hsummary, hemitted, hbarren⟩ := h.collected hs settled.1 ht
    rw [h.fromPlace_eq settled]
    exact ⟨outcome, hsummary, hemitted, written_eq h.pass hs ht, hbarren⟩

end Settled

/-! ## All is settled in the end -/

/-- **Not stuck before all is settled**: the pass goes on, or a line that was
written is still on its way. -/
theorem Sound.exists_step {s : Settings} {worlds : Nat → World σ} {states : Nat → σ}
    {permits : Permits} {es : List (Nat × Happening σ)} {r : Reception σ}
    (h : Sound s worlds states permits es r) (hpermits : 1 ≤ permits.count)
    (total : ∀ i, (worlds i).Total) (hopen : ¬ r.Settled) :
    ∃ q, Leads s.collecting (s.sites worlds states) q r := by
  by_cases hover : r.pass.Over
  · obtain ⟨i, hmissing⟩ : ∃ i, (fromPlace i r.arrived).length ≠ (written r.pass i).length := by
      by_contra hnone
      exact hopen ⟨hover, fun i => by_contra fun hne => hnone ⟨i, hne⟩⟩
    have hlt : (fromPlace i r.arrived).length < (written r.pass i).length :=
      lt_of_le_of_ne (h.arrived i).length_le hmissing
    exact ⟨_, [], .arrive (List.getElem?_eq_getElem hlt)⟩
  · have hworlds : ∀ x ∈ s.sites worlds states, x.world.Total := by
      intro x hx
      obtain ⟨i, hi, rfl⟩ := List.mem_mapIdx.1 hx
      exact total i
    obtain ⟨q, es, step⟩ := h.pass.exists_step hpermits hworlds hover
    exact ⟨⟨q, r.arrived⟩, es, .go step⟩

/-- How many lines that were written are still on their way. -/
def pending (r : Reception σ) : Nat :=
  ∑ i ∈ Finset.range r.pass.tasks.length,
    ((written r.pass i).length - (fromPlace i r.arrived).length)

/-- **An arrival leaves fewer lines on their way.** -/
theorem pending_lt {p : Pass.State σ Receiver} {arrived : List (Nat × String)} {i : Nat}
    {line : String} (next : (written p i)[(fromPlace i arrived).length]? = some line) :
    pending ⟨p, arrived ++ [(i, line)]⟩ < pending ⟨p, arrived⟩ := by
  have hlt : (fromPlace i arrived).length < (written p i).length :=
    (List.getElem?_eq_some_iff.1 next).1
  have hi : i < p.tasks.length := by
    by_contra hge
    have hnone : p.tasks[i]? = none := List.getElem?_eq_none_iff.2 (Nat.le_of_not_lt hge)
    rw [written, hnone] at hlt
    exact absurd hlt (Nat.not_lt_zero _)
  have hlength : ∀ j, (fromPlace j (arrived ++ [(i, line)])).length =
      (fromPlace j arrived).length + if i = j then 1 else 0 := by
    intro j
    rw [fromPlace_append, fromPlace_single, List.length_append]
    by_cases hij : i = j <;> simp [hij]
  refine Finset.sum_lt_sum (fun j _ => ?_) ⟨i, Finset.mem_range.2 hi, ?_⟩
  · simp only [hlength]
    omega
  · simp only [hlength, if_true]
    omega

/-- **No reception goes on forever.** -/
theorem acc_leads (c : Settings.Collecting) (sites : List (Site σ Receiver)) (r : Reception σ) :
    Acc (Leads c sites) r := by
  obtain ⟨p, arrived⟩ := r
  induction Pass.acc_leads c sites p generalizing arrived with
  | intro p _ ihpass =>
    -- the pass stands still only as long as there are lines on their way
    induction hn : pending ⟨p, arrived⟩ using Nat.strong_induction_on generalizing arrived with
    | _ n ihlines =>
      refine ⟨_, ?_⟩
      rintro _ ⟨es, step⟩
      cases step with
      | go step => exact ihpass _ ⟨es, step⟩ _
      | arrive next => exact ihlines _ (hn ▸ pending_lt next) _ rfl

/-- What a pass does, a reception may do while no line arrives. -/
theorem reaches_go {c : Settings.Collecting} {sites : List (Site σ Receiver)}
    {p q : Pass.State σ Receiver} {es : List (Nat × Happening σ)} (arrived : List (Nat × String))
    (h : Reaches (Pass.Step c sites) p es q) :
    Reaches (Step c sites) ⟨p, arrived⟩ es ⟨q, arrived⟩ := by
  induction h with
  | refl p => exact .refl _
  | next head _ ih => exact .next (.go head) ih

/-- **When a pass is over, the lines on their way arrive.** -/
theorem exists_settled {s : Settings} {worlds : Nat → World σ} {states : Nat → σ}
    {permits : Permits} {es : List (Nat × Happening σ)} {r : Reception σ} (hs : Unbroken s)
    (h : Sound s worlds states permits es r) (hover : r.pass.Over) :
    ∃ q, Reaches (Step s.collecting (s.sites worlds states)) r [] q ∧ q.pass = r.pass ∧
      q.Settled := by
  obtain ⟨p, arrived⟩ := r
  induction hn : pending ⟨p, arrived⟩ using Nat.strong_induction_on generalizing arrived with
  | _ n ih =>
    by_cases hmissing : ∃ i, (fromPlace i arrived).length ≠ (written p i).length
    · obtain ⟨i, hne⟩ := hmissing
      have hlt := lt_of_le_of_ne (h.arrived i).length_le hne
      have next := List.getElem?_eq_getElem hlt
      have arrives : Step s.collecting (s.sites worlds states) ⟨p, arrived⟩ [] _ := .arrive next
      have hsound := h.step hs arrives
      rw [List.append_nil] at hsound
      obtain ⟨q, hreaches, hpass, hsettled⟩ := ih _ (hn ▸ pending_lt next) _ hsound hover rfl
      exact ⟨q, .next arrives hreaches, hpass, hsettled⟩
    · exact ⟨_, .refl _, rfl, hover, fun i => by_contra fun hne => hmissing ⟨i, hne⟩⟩

/-! ## The lines of a pass -/

/-- **Conservation from the cycles to the receiver.** Of settings that violate
no rule and get their permits, with a root and addresses in one line each, let a
pass be made with any agents, and let the lines of its connections arrive as they
may. When all is settled, what has arrived is what the summaries say. With
agents on which every request comes to an end this does not take forever, and is
not stuck before. For agents that answer in one way only, the pass that runs is
one that is settled so. -/
theorem conserved {s : Settings} {permits : Permits} (valid : s.violation? = none)
    (launched : s.polling.permits = .ok permits) (unbroken : Unbroken s)
    (worlds : Nat → World σ) (states : Nat → σ) :
    (∀ es r, Reaches (Step s.collecting (s.sites worlds states))
        (start permits (s.sites worlds states)) es r → r.Settled → Conserved s es r) ∧
      ((∀ i, (worlds i).Total) → ∀ es r, Reaches (Step s.collecting (s.sites worlds states))
        (start permits (s.sites worlds states)) es r →
          Acc (Leads s.collecting (s.sites worlds states)) r ∧
            (r.Settled ∨ ∃ q, Leads s.collecting (s.sites worlds states) q r)) ∧
      ∀ agents : Nat → Agent σ, worlds = (fun i => (agents i).world) →
        ∃ es r, Reaches (Step s.collecting (s.sites worlds states))
            (start permits (s.sites worlds states)) es r ∧ r.Settled ∧
          r.pass.summaries =
            (KeaGauge.pass s.collecting (s.stations agents states)).map Visit.summary := by
  have hpermits : 1 ≤ permits.count := by
    rw [Permits.make_eq_ok_iff.1 launched]
    exact Settings.toNat_pos (Settings.violation?_eq_none_iff.1 valid).parallel
  refine ⟨fun es r h => (sound_of_reaches unbroken h).conserved_of_settled unbroken,
    fun total es r h => ⟨acc_leads _ _ r, ?_⟩, ?_⟩
  · by_cases hsettled : r.Settled
    · exact .inl hsettled
    · exact .inr ((sound_of_reaches unbroken h).exists_step hpermits total hsettled)
  · rintro agents rfl
    obtain ⟨es, p, hreaches, hover, hsummaries, -⟩ := Pass.mayBring_of_alone hpermits
      (Pass.alone_pass s.collecting (s.stations agents states))
    rw [Settings.stations_site] at hreaches
    have hgo := reaches_go [] hreaches
    obtain ⟨r, harrive, hpass, hsettled⟩ :=
      exists_settled unbroken (sound_of_reaches unbroken hgo) hover
    exact ⟨_, r, hgo.trans harrive, hsettled, hpass ▸ hsummaries⟩

/-! ## A dead target beside a healthy one -/

namespace DeadTarget

/-- The settings with the two targets, whose paths are under subnets and under
servers. -/
def settings : Settings where
  polling := .standard
  collecting := Pass.DeadTarget.settings
  carbon := { Settings.Carbon.standard with perServerPaths := true }
  targets := [Pass.DeadTarget.dead.target, Pass.DeadTarget.healthy.target]

open Collector.AddedSubnet in
/-- The agents of the two targets: one gives no answer, and the other one
replies in turn, with the same subnet in both readings. -/
def agents (i : Nat) : Agent Nat :=
  Agent.inTurn (if i = 0 then [] else first :: (statistics ++ [first]))

/-- As many permits as there are by default. -/
def permits : Permits := ⟨8, by decide⟩

/-- The outcomes that are counted. -/
theorem emitted_eq :
    ((KeaGauge.pass settings.collecting (settings.stations agents fun _ => 0)).map
      Visit.summary).map (·.outcome.emitted) = [0, 1] := by
  decide +kernel

/-- The summary of the dead target. -/
theorem summary_dead :
    ((KeaGauge.pass settings.collecting (settings.stations agents fun _ => 0)).map
      Visit.summary)[0]? = some ⟨Pass.DeadTarget.dead.target.label,
        .error (.kea (.transport Pass.DeadTarget.dead.target.url))⟩ :=
  rfl

end DeadTarget

/-- The dead target brings no line, and the only metric of the other two of
them, under the subnet and under the server. -/
theorem conserved_dead_target :
    DeadTarget.settings.violation? = none ∧
      DeadTarget.settings.polling.permits = .ok DeadTarget.permits ∧
      Unbroken DeadTarget.settings ∧
      ∃ es r, Reaches (Step DeadTarget.settings.collecting
          (DeadTarget.settings.sites (fun i => (DeadTarget.agents i).world) fun _ => 0))
          (start DeadTarget.permits
            (DeadTarget.settings.sites (fun i => (DeadTarget.agents i).world) fun _ => 0)) es r ∧
        r.Settled ∧ Conserved DeadTarget.settings es r ∧ r.arrived.length = 2 ∧
        fromPlace 0 r.arrived = [] := by
  have valid : DeadTarget.settings.violation? = none := by decide
  have launched : DeadTarget.settings.polling.permits = .ok DeadTarget.permits := rfl
  have unbroken : Unbroken DeadTarget.settings := by decide
  obtain ⟨hconserved, -, hpass⟩ :=
    conserved valid launched unbroken (fun i => (DeadTarget.agents i).world) fun _ => 0
  obtain ⟨es, r, hreaches, hsettled, hsummaries⟩ := hpass _ rfl
  have hall := hconserved es r hreaches hsettled
  refine ⟨valid, launched, unbroken, es, r, hreaches, hsettled, hall, ?_, ?_⟩
  · rw [hall.total, hsummaries, DeadTarget.emitted_eq]
    rfl
  · obtain ⟨outcome, hsummary, -, -, hbarren⟩ := hall.each 0 _ rfl
    rw [hsummaries, DeadTarget.summary_dead] at hsummary
    obtain rfl := congrArg Summary.outcome (Option.some.inj hsummary)
    exact hbarren trivial

end Reception

end KeaGauge
