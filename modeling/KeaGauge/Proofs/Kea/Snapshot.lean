import KeaGauge.Kea.Snapshot
import KeaGauge.Proofs.Kea.Drift
import Mathlib.Data.Finset.Basic
import Mathlib.Data.Finset.Dedup
import Mathlib.Data.Finset.SDiff
/-!
# The drift between snapshots

Snapshots are compared as sets of pairs of an id and a prefix (`pairs`).
`Drift.Describes` says what a drift has to list about two such sets: every
pair that only one of them has, once, in order, and as re-prefixed exactly
where an id lost one prefix and gained one. The drift of two snapshots
describes their sets (`describes_of_drift?`), so a pair of the first snapshot
is stable when the second has it too (`isStable_iff`), and only a pair that was
dropped is not stable (`isStable_exact`).
-/

namespace KeaGauge.Kea

open Net (Cidr)
open Assignment (prefixesOf)

namespace Drift

/-- The assignments that a drift says are no more. -/
def dropped (d : Drift) : List Assignment := d.removed ++ d.reprefixed.map Reprefixed.before

/-- The assignments that a drift says are new. -/
def taken (d : Drift) : List Assignment := d.added ++ d.reprefixed.map Reprefixed.after

/-- The set that a drift makes of another: without the assignments that are
no more, and with the new ones. -/
def apply (d : Drift) (pairs : Finset Assignment) : Finset Assignment :=
  (pairs \ d.dropped.toFinset) ∪ d.taken.toFinset

/-- **What a drift has to list** about the sets before and after. -/
structure Describes (d : Drift) (before after : Finset Assignment) : Prop where
  dropped_nodup : d.dropped.Nodup
  mem_dropped : ∀ a, a ∈ d.dropped ↔ a ∈ before \ after
  taken_nodup : d.taken.Nodup
  mem_taken : ∀ a, a ∈ d.taken ↔ a ∈ after \ before
  /-- An id is re-prefixed from the only prefix it lost to the only one it
  gained. -/
  mem_reprefixed : ∀ id old new, ⟨id, old, new⟩ ∈ d.reprefixed ↔
    (∀ c, ⟨id, c⟩ ∈ before \ after ↔ c = old) ∧ ∀ c, ⟨id, c⟩ ∈ after \ before ↔ c = new
  removed_ascending : d.removed.Pairwise Assignment.Before
  added_ascending : d.added.Pairwise Assignment.Before
  reprefixed_ascending : d.reprefixed.Pairwise fun r s => r.id < s.id
  apply_eq : d.apply before = after

/-- An assignment is stable unless it is no more. -/
theorem isStable_iff_not_mem_dropped {d : Drift} {a : Assignment} :
    d.isStable a = true ↔ a ∉ d.dropped := by
  simp [isStable, dropped]

/-- **Stability, by the sets.** -/
theorem Describes.isStable_iff {d : Drift} {before after : Finset Assignment}
    (h : d.Describes before after) {a : Assignment} :
    d.isStable a = true ↔ a ∉ before \ after := by
  rw [isStable_iff_not_mem_dropped, h.mem_dropped]

/-! ## The drift of lost and gained assignments -/

section Changes

variable {lost gained : List Assignment} {a : Assignment}

theorem mem_map_before_reprefixed (h : lost.Nodup) :
    a ∈ (ofChanges lost gained).reprefixed.map Reprefixed.before ↔
      a ∈ lost ∧ IsReprefixed lost gained a.id := by
  rw [List.mem_map]
  constructor
  · rintro ⟨r, hr, rfl⟩
    obtain ⟨hlost, hgained⟩ := mem_reprefixed.1 hr
    exact ⟨((Assignment.prefixesOf_eq_singleton_iff h).1 hlost r.old).2 rfl, _, _, hlost, hgained⟩
  · rintro ⟨ha, old, new, hlost, hgained⟩
    have hold : a.cidr = old := ((Assignment.prefixesOf_eq_singleton_iff h).1 hlost a.cidr).1 ha
    exact ⟨⟨a.id, old, new⟩, mem_reprefixed.2 ⟨hlost, hgained⟩, by rw [← hold]; rfl⟩

theorem mem_map_after_reprefixed (h : gained.Nodup) :
    a ∈ (ofChanges lost gained).reprefixed.map Reprefixed.after ↔
      a ∈ gained ∧ IsReprefixed lost gained a.id := by
  rw [List.mem_map]
  constructor
  · rintro ⟨r, hr, rfl⟩
    obtain ⟨hlost, hgained⟩ := mem_reprefixed.1 hr
    exact ⟨((Assignment.prefixesOf_eq_singleton_iff h).1 hgained r.new).2 rfl, _, _, hlost,
      hgained⟩
  · rintro ⟨ha, old, new, hlost, hgained⟩
    have hnew : a.cidr = new := ((Assignment.prefixesOf_eq_singleton_iff h).1 hgained a.cidr).1 ha
    exact ⟨⟨a.id, old, new⟩, mem_reprefixed.2 ⟨hlost, hgained⟩, by rw [← hnew]; rfl⟩

theorem nodup_map_reprefixed {f : Reprefixed → Assignment} (hf : ∀ r, (f r).id = r.id) :
    ((ofChanges lost gained).reprefixed.map f).Nodup := by
  refine List.pairwise_map.2 ((ascending_reprefixed lost gained).imp ?_)
  intro r s hlt heq
  have : r.id = s.id := by rw [← hf r, ← hf s, heq]
  omega

/-- What a drift drops is exactly what was lost, each once. -/
theorem mem_dropped_ofChanges (h : lost.Nodup) :
    a ∈ (ofChanges lost gained).dropped ↔ a ∈ lost := by
  rw [dropped, List.mem_append, mem_removed, mem_map_before_reprefixed h, ← and_or_left]
  exact and_iff_left (em' _)

theorem mem_taken_ofChanges (h : gained.Nodup) :
    a ∈ (ofChanges lost gained).taken ↔ a ∈ gained := by
  rw [taken, List.mem_append, mem_added, mem_map_after_reprefixed h, ← and_or_left]
  exact and_iff_left (em' _)

theorem nodup_dropped_ofChanges (h : lost.Nodup) : (ofChanges lost gained).dropped.Nodup := by
  refine List.nodup_append'.2 ⟨(ascending_removed h).nodup, nodup_map_reprefixed fun _ => rfl, ?_⟩
  intro a ha hb
  exact (mem_removed.1 ha).2 ((mem_map_before_reprefixed h).1 hb).2

theorem nodup_taken_ofChanges (h : gained.Nodup) : (ofChanges lost gained).taken.Nodup := by
  refine List.nodup_append'.2 ⟨(ascending_added h).nodup, nodup_map_reprefixed fun _ => rfl, ?_⟩
  intro a ha hb
  exact (mem_added.1 ha).2 ((mem_map_after_reprefixed h).1 hb).2

end Changes

/-- Taking away what only the first of two sets has, and putting in what only
the second has, makes the second of the first. -/
theorem apply_eq_of_mem {d : Drift} {before after : Finset Assignment}
    (hdropped : ∀ a, a ∈ d.dropped ↔ a ∈ before \ after)
    (htaken : ∀ a, a ∈ d.taken ↔ a ∈ after \ before) : d.apply before = after := by
  ext a
  rw [apply, Finset.mem_union, Finset.mem_sdiff, List.mem_toFinset, List.mem_toFinset,
    hdropped, htaken, Finset.mem_sdiff, Finset.mem_sdiff]
  tauto

/-- **The drift of lost and gained assignments describes the sets** that they
are the differences of. -/
theorem describes_ofChanges {before after : Finset Assignment} {lost gained : List Assignment}
    (hlost : Assignment.Ascending lost) (hgained : Assignment.Ascending gained)
    (memLost : ∀ a, a ∈ lost ↔ a ∈ before \ after)
    (memGained : ∀ a, a ∈ gained ↔ a ∈ after \ before) :
    (ofChanges lost gained).Describes before after := by
  have hdropped : ∀ a, a ∈ (ofChanges lost gained).dropped ↔ a ∈ before \ after := fun a =>
    (mem_dropped_ofChanges hlost.nodup).trans (memLost a)
  have htaken : ∀ a, a ∈ (ofChanges lost gained).taken ↔ a ∈ after \ before := fun a =>
    (mem_taken_ofChanges hgained.nodup).trans (memGained a)
  refine ⟨nodup_dropped_ofChanges hlost.nodup, hdropped, nodup_taken_ofChanges hgained.nodup,
    htaken, fun id old new => ?_, (ascending_removed hlost.nodup).pairwise_before,
    (ascending_added hgained.nodup).pairwise_before, ascending_reprefixed lost gained,
    apply_eq_of_mem hdropped htaken⟩
  rw [mem_reprefixed, Assignment.prefixesOf_eq_singleton_iff hlost.nodup,
    Assignment.prefixesOf_eq_singleton_iff hgained.nodup]
  simp only [memLost, memGained]

end Drift

namespace Snapshot

variable {before after : Snapshot}

/-- The pairs of an id and a prefix that a snapshot lists. -/
def pairs (s : Snapshot) : Finset Assignment := (s.subnets.map Subnet.assignment).toFinset

theorem mem_assignments {s : Snapshot} {a : Assignment} : a ∈ s.assignments ↔ a ∈ s.pairs := by
  rw [assignments, Assignment.mem_setOf, pairs, List.mem_toFinset]

theorem assignments_eq_iff :
    before.assignments = after.assignments ↔ before.pairs = after.pairs := by
  simp only [assignments, Assignment.setOf_eq_setOf_iff, Finset.ext_iff, pairs, List.mem_toFinset]

/-- **There is no drift** exactly between snapshots of the same pairs. -/
theorem drift?_eq_none_iff : before.drift? after = none ↔ before.pairs = after.pairs := by
  rw [← assignments_eq_iff, drift?, Drift.between?]
  split <;> simp_all

theorem pairs_ne_of_drift? {d : Drift} (h : before.drift? after = some d) :
    before.pairs ≠ after.pairs := by
  intro heq
  rw [drift?_eq_none_iff.2 heq] at h
  exact absurd h (by simp)

theorem pairs_eq_empty_iff {s : Snapshot} : s.pairs = ∅ ↔ s.subnets = [] := by
  rw [pairs, List.toFinset_eq_empty_iff, List.map_eq_nil_iff]

/-- **A drift between snapshots describes their pairs.** -/
theorem describes_of_drift? {d : Drift} (h : before.drift? after = some d) :
    d.Describes before.pairs after.pairs := by
  have hwithout : ∀ (s t : Snapshot) (a : Assignment),
      a ∈ Assignment.without s.assignments t.assignments ↔ a ∈ s.pairs \ t.pairs := by
    intro s t a
    rw [Assignment.mem_without, mem_assignments, mem_assignments, Finset.mem_sdiff]
  unfold drift? Drift.between? at h
  split at h
  · exact absurd h (by simp)
  · obtain rfl := Option.some.inj h
    exact Drift.describes_ofChanges ((Assignment.ascending_setOf _).without _)
      ((Assignment.ascending_setOf _).without _) (hwithout before after) (hwithout after before)

/-- A pair of the first snapshot is stable exactly when the second has it. -/
theorem isStable_iff {d : Drift} (h : before.drift? after = some d) {a : Assignment}
    (ha : a ∈ before.pairs) : d.isStable a = true ↔ a ∈ after.pairs := by
  rw [(describes_of_drift? h).isStable_iff, Finset.mem_sdiff, not_and, not_not]
  exact ⟨fun hmem => hmem ha, fun hmem _ => hmem⟩

/-- **The comparison of two snapshots is exact**: it finds nothing between
snapshots of the same pairs, and otherwise a drift that describes both sets. -/
theorem drift?_exact (before after : Snapshot) :
    match before.drift? after with
    | none => before.pairs = after.pairs
    | some d => before.pairs ≠ after.pairs ∧ d.Describes before.pairs after.pairs := by
  cases h : before.drift? after with
  | none => exact drift?_eq_none_iff.1 h
  | some d => exact ⟨pairs_ne_of_drift? h, describes_of_drift? h⟩

/-- **What is not stable is what was dropped.** Of every pair of an id and a
prefix, in whichever of two snapshots it is, the drift between them says that
it is not stable exactly when the first has it and the second has not. So the
pairs of the first that are stable are those of both. -/
theorem isStable_exact {d : Drift} (h : before.drift? after = some d) (a : Assignment) :
    (d.isStable a = false ↔ a ∈ before.pairs ∧ a ∉ after.pairs) ∧
      (a ∈ before.pairs → (d.isStable a = true ↔ a ∈ before.pairs ∧ a ∈ after.pairs)) := by
  have hstable : d.isStable a = true ↔ a ∉ before.pairs \ after.pairs :=
    (describes_of_drift? h).isStable_iff
  constructor
  · rw [← Bool.not_eq_true, hstable, not_not, Finset.mem_sdiff]
  · intro ha
    rw [isStable_iff h ha]
    exact (and_iff_right ha).symm

/-! ## An id that is stable in part -/

namespace PartlyStable

/-- 192.0.2.0/25, which stays. -/
def kept : Cidr := ⟨.ofNat .v4 0xC0000200, 25, by decide⟩

/-- 198.51.100.0/25, which is dropped. -/
def old : Cidr := ⟨.ofNat .v4 0xC6336400, 25, by decide⟩

/-- 203.0.113.0/25, which is gained. -/
def new : Cidr := ⟨.ofNat .v4 0xCB007100, 25, by decide⟩

/-- One id for two prefixes. -/
def earlier : Snapshot := ⟨.v4, [⟨1, old, []⟩, ⟨1, kept, []⟩], none⟩

/-- The same id, for one of the two and for another one. -/
def later : Snapshot := ⟨.v4, [⟨1, kept, []⟩, ⟨1, new, []⟩], none⟩

end PartlyStable

open PartlyStable in
/-- The id is re-prefixed, yet under the prefix that it kept it is stable. -/
theorem isStable_exact_partly_stable :
    earlier.drift? later = some ⟨[], [], [⟨1, old, new⟩]⟩ ∧
      (Drift.mk [] [] [⟨1, old, new⟩]).isStable ⟨1, old⟩ = false ∧
      (Drift.mk [] [] [⟨1, old, new⟩]).isStable ⟨1, kept⟩ = true := by
  have hdrift : earlier.drift? later = some ⟨[], [], [⟨1, old, new⟩]⟩ := by decide +kernel
  have hold := isStable_exact hdrift ⟨1, old⟩
  have hkept := isStable_exact hdrift ⟨1, kept⟩
  exact ⟨hdrift, hold.1.2 (by decide), (hkept.2 (by decide)).2 (by decide)⟩

end Snapshot

end KeaGauge.Kea
