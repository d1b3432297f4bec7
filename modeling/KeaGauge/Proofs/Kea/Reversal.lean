import KeaGauge.Proofs.Kea.Snapshot
/-!
# Drifts the other way round

`Drift.ofChanges` goes through the ids that lost prefixes and then through
those that are left, so the two sides are not treated alike. What a drift has
to list about two sets leaves no choice, however: the order of its lists and
what is in them are given (`Describes.unique`). The drift the other way round
describes the sets the other way round (`Describes.reverse`), so it is what
the comparison of the two snapshots in the other order finds
(`drift?_reverse`).
-/

namespace KeaGauge.Kea

/-- The change of prefix undone. -/
def Reprefixed.reverse (r : Reprefixed) : Reprefixed := ⟨r.id, r.new, r.old⟩

namespace Drift

/-- The drift the other way round: what was added is removed, what was removed
is added, and changes of prefix are undone. -/
def reverse (d : Drift) : Drift :=
  { added := d.removed, removed := d.added, reprefixed := d.reprefixed.map Reprefixed.reverse }

variable {d e : Drift} {before after : Finset Assignment}

/-! ## What a description leaves open -/

/-- A list of changes in the order of their ids is determined by them. -/
theorem eq_of_pairwise_id {rs ss : List Reprefixed} (hr : rs.Pairwise fun r s => r.id < s.id)
    (hs : ss.Pairwise fun r s => r.id < s.id) (h : ∀ r, r ∈ rs ↔ r ∈ ss) : rs = ss := by
  have nodup : ∀ {ts : List Reprefixed}, ts.Pairwise (fun r s => r.id < s.id) → ts.Nodup :=
    fun ht => ht.imp fun hlt heq => absurd (congrArg Reprefixed.id heq) hlt.ne
  refine List.Perm.eq_of_pairwise (fun r s _ _ hrs hsr => ?_) hr hs
    ((List.perm_ext_iff_of_nodup (nodup hr) (nodup hs)).2 h)
  exact absurd hrs hsr.asymm

/-- Of two lists without repetition the first has what is in both together
and not in the second. -/
theorem mem_left_iff {xs ys : List Assignment} (h : (xs ++ ys).Nodup) {a : Assignment} :
    a ∈ xs ↔ a ∈ xs ++ ys ∧ a ∉ ys := by
  have hapart := (List.nodup_append'.1 h).2.2
  rw [List.mem_append]
  constructor
  · exact fun ha => ⟨.inl ha, fun hb => hapart ha hb⟩
  · rintro ⟨ha | hb, hnot⟩
    · exact ha
    · exact absurd hb hnot

theorem eq_of_pairwise_before {xs ys : List Assignment} (hx : xs.Pairwise Assignment.Before)
    (hy : ys.Pairwise Assignment.Before) (h : ∀ a, a ∈ xs ↔ a ∈ ys) : xs = ys :=
  Assignment.Ascending.ext (hx.imp Assignment.precedes_iff_before.2)
    (hy.imp Assignment.precedes_iff_before.2) h

/-- What is removed is what is no more, unless it is so by a change of
prefix. -/
theorem Describes.mem_removed (h : d.Describes before after) {a : Assignment} :
    a ∈ d.removed ↔ a ∈ before \ after ∧ a ∉ d.reprefixed.map Reprefixed.before := by
  rw [mem_left_iff h.dropped_nodup, ← h.mem_dropped]
  rfl

theorem Describes.mem_added (h : d.Describes before after) {a : Assignment} :
    a ∈ d.added ↔ a ∈ after \ before ∧ a ∉ d.reprefixed.map Reprefixed.after := by
  rw [mem_left_iff h.taken_nodup, ← h.mem_taken]
  rfl

/-- **A description leaves nothing open**: two drifts that describe the same
sets are equal. -/
theorem Describes.unique (hd : d.Describes before after) (he : e.Describes before after) :
    d = e := by
  have hreprefixed : d.reprefixed = e.reprefixed :=
    eq_of_pairwise_id hd.reprefixed_ascending he.reprefixed_ascending fun ⟨id, old, new⟩ =>
      (hd.mem_reprefixed id old new).trans (he.mem_reprefixed id old new).symm
  have hremoved : d.removed = e.removed :=
    eq_of_pairwise_before hd.removed_ascending he.removed_ascending fun a => by
      rw [hd.mem_removed, he.mem_removed, hreprefixed]
  have hadded : d.added = e.added :=
    eq_of_pairwise_before hd.added_ascending he.added_ascending fun a => by
      rw [hd.mem_added, he.mem_added, hreprefixed]
  calc d = ⟨d.added, d.removed, d.reprefixed⟩ := rfl
    _ = ⟨e.added, e.removed, e.reprefixed⟩ := by rw [hadded, hremoved, hreprefixed]

/-! ## The sets the other way round -/

theorem dropped_reverse (d : Drift) : d.reverse.dropped = d.taken := by
  simp only [dropped, taken, reverse, List.map_map]
  rfl

theorem taken_reverse (d : Drift) : d.reverse.taken = d.dropped := by
  simp only [dropped, taken, reverse, List.map_map]
  rfl

theorem mem_reprefixed_reverse {r : Reprefixed} :
    r ∈ d.reverse.reprefixed ↔ r.reverse ∈ d.reprefixed := by
  rw [reverse, List.mem_map]
  constructor
  · rintro ⟨s, hs, rfl⟩
    exact hs
  · exact fun hr => ⟨r.reverse, hr, rfl⟩

/-- **A drift the other way round describes the sets the other way round.** -/
theorem Describes.reverse (h : d.Describes before after) :
    d.reverse.Describes after before := by
  have hdropped : ∀ a, a ∈ d.reverse.dropped ↔ a ∈ after \ before := fun a => by
    rw [dropped_reverse, h.mem_taken]
  have htaken : ∀ a, a ∈ d.reverse.taken ↔ a ∈ before \ after := fun a => by
    rw [taken_reverse, h.mem_dropped]
  refine ⟨dropped_reverse d ▸ h.taken_nodup, hdropped, taken_reverse d ▸ h.dropped_nodup, htaken,
    fun id old new => ?_, h.added_ascending, h.removed_ascending,
    List.pairwise_map.2 h.reprefixed_ascending, apply_eq_of_mem hdropped htaken⟩
  rw [mem_reprefixed_reverse]
  exact (h.mem_reprefixed id new old).trans and_comm

end Drift

namespace Snapshot

/-- **Drift is symmetric.** Compared in the other order, two snapshots show no
drift when they show none in this order, and otherwise the same drift the
other way round, list by list in the same order. -/
theorem drift?_reverse (before after : Snapshot) :
    after.drift? before = (before.drift? after).map Drift.reverse := by
  cases hforth : before.drift? after with
  | none => exact drift?_eq_none_iff.2 (drift?_eq_none_iff.1 hforth).symm
  | some d =>
    cases hback : after.drift? before with
    | none => exact absurd (drift?_eq_none_iff.1 hback).symm (pairs_ne_of_drift? hforth)
    | some e =>
      exact congrArg some
        ((describes_of_drift? hback).unique (describes_of_drift? hforth).reverse)

end Snapshot

end KeaGauge.Kea
