import KeaGauge.Kea.Drift
import KeaGauge.Proofs.Kea.Grouping
/-!
# What a drift lists

`Drift.ofChanges` takes up the ids that lost prefixes one after the other and
consumes the gained prefixes on the way. What it lists depends on the lost and
gained prefixes of each id alone: a re-prefixed id is one that lost a single
prefix and gained a single one (`mem_reprefixed`), and every other assignment
lost or gained is listed as removed or added (`mem_removed`, `mem_added`).
-/

namespace KeaGauge.Kea

open Net (Cidr)
open Assignment (prefixesOf mem_prefixesOf)

namespace Drift

/-! ## Settling the ids that lost prefixes -/

section Settling

variable {g : Grouping} {d : Drift}

/-- How an entry of lost prefixes is re-prefixed by the entry of its id among
gained ones: both hold a single prefix. -/
def reprefixing (g : Grouping) (entry : Nat × List Cidr) : Option Reprefixed :=
  match entry.2, g.get? entry.1 with
  | [old], some [new] => some ⟨entry.1, old, new⟩
  | _, _ => none

theorem reprefixing_eq_some_iff {entry : Nat × List Cidr} {r : Reprefixed} :
    reprefixing g entry = some r ↔
      r.id = entry.1 ∧ entry.2 = [r.old] ∧ g.get? entry.1 = some [r.new] := by
  obtain ⟨id, old, new⟩ := r
  unfold reprefixing
  split
  · next hold hnew =>
    rw [hold, hnew]
    simp [eq_comm]
  · next hnot =>
    constructor
    · intro h
      exact absurd h (by simp)
    · rintro ⟨-, hold, hnew⟩
      exact (hnot _ _ hold hnew).elim

/-- The lost assignments of an entry that is not re-prefixed. -/
def lostBy (g : Grouping) (entry : Nat × List Cidr) : List Assignment :=
  if (reprefixing g entry).isSome then [] else Grouping.spread entry.1 entry.2

/-- The gained assignments of the id of an entry that is not re-prefixed. -/
def gainedBy (g : Grouping) (entry : Nat × List Cidr) : List Assignment :=
  if (reprefixing g entry).isSome then []
  else Grouping.spread entry.1 ((g.get? entry.1).getD [])

/-- **One step**: an entry adds its own share to each list, and its id is
done with. -/
theorem settle_eq (entry : Nat × List Cidr) :
    Tally.settle ⟨d, g⟩ entry =
      ⟨⟨d.added ++ gainedBy g entry, d.removed ++ lostBy g entry,
        d.reprefixed ++ (reprefixing g entry).toList⟩, g.erase entry.1⟩ := by
  obtain ⟨id, old⟩ := entry
  cases hget : g.get? id with
  | none =>
    have hnone : reprefixing g (id, old) = none := by
      rw [Option.eq_none_iff_forall_ne_some]
      intro r hr
      exact absurd (hget.symm.trans (reprefixing_eq_some_iff.1 hr).2.2) (by simp)
    simp [Tally.settle, remove, hget, lostBy, gainedBy, hnone, Grouping.spread,
      Grouping.erase_of_get?_eq_none hget]
  | some new =>
    simp only [Tally.settle, hget]
    unfold exchange
    split
    · simp [lostBy, gainedBy, reprefixing, hget]
    · next hnot =>
      have hnone : reprefixing g (id, old) = none := by
        rw [Option.eq_none_iff_forall_ne_some]
        intro r hr
        obtain ⟨-, hold, hnew⟩ := reprefixing_eq_some_iff.1 hr
        exact hnot _ _ hold (Option.some.inj (hget.symm.trans hnew))
      simp [lostBy, gainedBy, hnone, hget]

/-- An entry is re-prefixed in the same way when another id is erased. -/
theorem reprefixing_erase {id : Nat} {entry : Nat × List Cidr} (h : entry.1 ≠ id) :
    reprefixing (g.erase id) entry = reprefixing g entry := by
  unfold reprefixing
  rw [Grouping.get?_erase, if_neg h]

theorem lostBy_erase {id : Nat} {entry : Nat × List Cidr} (h : entry.1 ≠ id) :
    lostBy (g.erase id) entry = lostBy g entry := by
  unfold lostBy
  rw [reprefixing_erase h]

theorem gainedBy_erase {id : Nat} {entry : Nat × List Cidr} (h : entry.1 ≠ id) :
    gainedBy (g.erase id) entry = gainedBy g entry := by
  unfold gainedBy
  rw [reprefixing_erase h, Grouping.get?_erase, if_neg h]

/-- **All steps.** The ids of the entries being different, what one entry
consumes is of no concern to the others. -/
theorem foldl_settle (entries : Grouping) (hids : (entries.map Prod.fst).Nodup) :
    entries.foldl Tally.settle ⟨d, g⟩ =
      ⟨⟨d.added ++ entries.flatMap (gainedBy g), d.removed ++ entries.flatMap (lostBy g),
        d.reprefixed ++ entries.filterMap (reprefixing g)⟩,
        g.filter fun x => x.1 ∉ entries.map Prod.fst⟩ := by
  induction entries generalizing d g with
  | nil => simp
  | cons entry rest ih =>
    obtain ⟨hentry, hrest⟩ := List.nodup_cons.1 hids
    -- the others have other ids, so they do not see that this one is erased
    have hne : ∀ x ∈ rest, x.1 ≠ entry.1 := by
      intro x hx heq
      exact hentry (heq ▸ List.mem_map_of_mem hx)
    have hgained : rest.flatMap (gainedBy (g.erase entry.1)) = rest.flatMap (gainedBy g) :=
      List.flatMap_congr fun x hx => gainedBy_erase (hne x hx)
    have hlost : rest.flatMap (lostBy (g.erase entry.1)) = rest.flatMap (lostBy g) :=
      List.flatMap_congr fun x hx => lostBy_erase (hne x hx)
    have hreprefixed :
        rest.filterMap (reprefixing (g.erase entry.1)) = rest.filterMap (reprefixing g) :=
      List.filterMap_congr fun x hx => reprefixing_erase (hne x hx)
    have hleft : (g.erase entry.1).filter (fun x => x.1 ∉ rest.map Prod.fst) =
        g.filter fun x => x.1 ∉ (entry :: rest).map Prod.fst := by
      rw [Grouping.erase, List.filter_filter]
      refine List.filter_congr fun x _ => ?_
      rw [← Bool.decide_and, decide_eq_decide, List.map_cons, List.mem_cons, not_or]
      exact and_comm
    rw [List.foldl_cons, settle_eq, ih hrest, hgained, hlost, hreprefixed, hleft]
    cases hentry' : reprefixing g entry <;> simp [hentry']

end Settling

/-! ## The lists of a drift -/

section Lists

variable {lost gained : List Assignment} {a : Assignment} {r : Reprefixed}

/-- Whether an id lost a single prefix and gained a single one. -/
def IsReprefixed (lost gained : List Assignment) (id : Nat) : Prop :=
  ∃ old new, prefixesOf id lost = [old] ∧ prefixesOf id gained = [new]

theorem reprefixing_ofAssignments {id : Nat} :
    reprefixing (Grouping.ofAssignments gained) (id, prefixesOf id lost) = some r ↔
      r.id = id ∧ prefixesOf id lost = [r.old] ∧ prefixesOf id gained = [r.new] := by
  rw [reprefixing_eq_some_iff, Grouping.get?_ofAssignments]
  refine and_congr_right fun _ => and_congr_right fun _ => ?_
  split
  · next hempty => simp [hempty]
  · rw [Option.some_inj]

theorem isSome_reprefixing_iff {id : Nat} :
    (reprefixing (Grouping.ofAssignments gained) (id, prefixesOf id lost)).isSome ↔
      IsReprefixed lost gained id := by
  rw [Option.isSome_iff_exists]
  constructor
  · rintro ⟨r, hr⟩
    exact ⟨r.old, r.new, (reprefixing_ofAssignments.1 hr).2⟩
  · rintro ⟨old, new, h⟩
    exact ⟨⟨id, old, new⟩, reprefixing_ofAssignments.2 ⟨rfl, h⟩⟩

/-- What is left of the gained prefixes when all ids that lost some are
settled. -/
def leftover (lost gained : List Assignment) : Grouping :=
  (Grouping.ofAssignments gained).filter fun x =>
    x.1 ∉ (Grouping.ofAssignments lost).map Prod.fst

/-- **The lists of a drift**, entry by entry. -/
theorem ofChanges_eq (lost gained : List Assignment) :
    ofChanges lost gained =
      ⟨Assignment.sort ((Grouping.ofAssignments lost).flatMap
          (gainedBy (Grouping.ofAssignments gained)) ++ (leftover lost gained).assignments),
        Assignment.sort ((Grouping.ofAssignments lost).flatMap
          (lostBy (Grouping.ofAssignments gained))),
        (Grouping.ofAssignments lost).filterMap
          (reprefixing (Grouping.ofAssignments gained))⟩ := by
  unfold ofChanges
  rw [foldl_settle _ (Grouping.ascending_ofAssignments lost).nodup_ids]
  rfl

/-- **The re-prefixed ids** are those that lost a single prefix and gained a
single one. -/
theorem mem_reprefixed :
    r ∈ (ofChanges lost gained).reprefixed ↔
      prefixesOf r.id lost = [r.old] ∧ prefixesOf r.id gained = [r.new] := by
  rw [ofChanges_eq]
  simp only [List.mem_filterMap]
  constructor
  · rintro ⟨⟨id, cidrs⟩, hmem, hr⟩
    obtain ⟨rfl, -⟩ := Grouping.mem_ofAssignments.1 hmem
    obtain ⟨rfl, h⟩ := reprefixing_ofAssignments.1 hr
    exact h
  · intro h
    -- the entry it comes from is that of its id
    refine ⟨(r.id, prefixesOf r.id lost), Grouping.mem_ofAssignments.2 ⟨rfl, ?_⟩,
      reprefixing_ofAssignments.2 ⟨rfl, h⟩⟩
    rw [h.1]
    exact List.cons_ne_nil _ _

theorem mem_flatMap_lostBy :
    a ∈ (Grouping.ofAssignments lost).flatMap (lostBy (Grouping.ofAssignments gained)) ↔
      a ∈ lost ∧ ¬ IsReprefixed lost gained a.id := by
  rw [List.mem_flatMap]
  constructor
  · rintro ⟨⟨id, cidrs⟩, hmem, ha⟩
    obtain ⟨rfl, -⟩ := Grouping.mem_ofAssignments.1 hmem
    unfold lostBy at ha
    split at ha
    · exact absurd ha List.not_mem_nil
    · next hnot =>
      obtain ⟨rfl, hcidr⟩ := Grouping.mem_spread.1 ha
      exact ⟨mem_prefixesOf.1 hcidr, fun h => hnot (isSome_reprefixing_iff.2 h)⟩
  · rintro ⟨ha, hnot⟩
    have hcidr : a.cidr ∈ prefixesOf a.id lost := mem_prefixesOf.2 ha
    refine ⟨(a.id, prefixesOf a.id lost),
      Grouping.mem_ofAssignments.2 ⟨rfl, List.ne_nil_of_mem hcidr⟩, ?_⟩
    unfold lostBy
    rw [if_neg (mt isSome_reprefixing_iff.1 hnot)]
    exact Grouping.mem_spread.2 ⟨rfl, hcidr⟩

/-- **The removed assignments** are the lost ones of ids not re-prefixed. -/
theorem mem_removed :
    a ∈ (ofChanges lost gained).removed ↔ a ∈ lost ∧ ¬ IsReprefixed lost gained a.id := by
  rw [ofChanges_eq, Assignment.mem_sort]
  exact mem_flatMap_lostBy

/-- What is left over are the entries of the ids that lost nothing. -/
theorem mem_assignments_leftover :
    a ∈ (leftover lost gained).assignments ↔ a ∈ gained ∧ prefixesOf a.id lost = [] := by
  simp only [Grouping.assignments, leftover, List.mem_flatMap, List.mem_filter,
    decide_eq_true_eq]
  constructor
  · rintro ⟨⟨id, cidrs⟩, ⟨hmem, hnot⟩, ha⟩
    obtain ⟨rfl, hcidr⟩ := Grouping.mem_spread.1 ha
    obtain ⟨rfl, -⟩ := Grouping.mem_ofAssignments.1 hmem
    refine ⟨mem_prefixesOf.1 hcidr, ?_⟩
    by_contra hne
    exact hnot (List.mem_map.2 ⟨_, Grouping.mem_ofAssignments.2 ⟨rfl, hne⟩, rfl⟩)
  · rintro ⟨ha, hempty⟩
    have hcidr : a.cidr ∈ prefixesOf a.id gained := mem_prefixesOf.2 ha
    refine ⟨(a.id, prefixesOf a.id gained),
      ⟨Grouping.mem_ofAssignments.2 ⟨rfl, List.ne_nil_of_mem hcidr⟩, ?_⟩,
      Grouping.mem_spread.2 ⟨rfl, hcidr⟩⟩
    intro hmem
    obtain ⟨⟨id, cidrs⟩, hentry, rfl⟩ := List.mem_map.1 hmem
    obtain ⟨rfl, hne⟩ := Grouping.mem_ofAssignments.1 hentry
    exact hne hempty

theorem mem_flatMap_gainedBy :
    a ∈ (Grouping.ofAssignments lost).flatMap (gainedBy (Grouping.ofAssignments gained)) ↔
      a ∈ gained ∧ prefixesOf a.id lost ≠ [] ∧ ¬ IsReprefixed lost gained a.id := by
  have hget : ∀ id, ((Grouping.ofAssignments gained).get? id).getD [] = prefixesOf id gained := by
    intro id
    rw [Grouping.get?_ofAssignments]
    split
    · next hempty => rw [hempty, Option.getD_none]
    · rw [Option.getD_some]
  rw [List.mem_flatMap]
  constructor
  · rintro ⟨⟨id, cidrs⟩, hmem, ha⟩
    obtain ⟨rfl, hne⟩ := Grouping.mem_ofAssignments.1 hmem
    unfold gainedBy at ha
    split at ha
    · exact absurd ha List.not_mem_nil
    · next hnot =>
      obtain ⟨rfl, hcidr⟩ := Grouping.mem_spread.1 ha
      rw [hget] at hcidr
      exact ⟨mem_prefixesOf.1 hcidr, hne, fun h => hnot (isSome_reprefixing_iff.2 h)⟩
  · rintro ⟨ha, hne, hnot⟩
    refine ⟨(a.id, prefixesOf a.id lost), Grouping.mem_ofAssignments.2 ⟨rfl, hne⟩, ?_⟩
    unfold gainedBy
    rw [if_neg (mt isSome_reprefixing_iff.1 hnot), hget]
    exact Grouping.mem_spread.2 ⟨rfl, mem_prefixesOf.2 ha⟩

/-- **The added assignments** are the gained ones of ids not re-prefixed,
whether their ids lost something or nothing. -/
theorem mem_added :
    a ∈ (ofChanges lost gained).added ↔ a ∈ gained ∧ ¬ IsReprefixed lost gained a.id := by
  rw [ofChanges_eq, Assignment.mem_sort, List.mem_append, mem_flatMap_gainedBy,
    mem_assignments_leftover]
  constructor
  · rintro (⟨ha, -, hnot⟩ | ⟨ha, hempty⟩)
    · exact ⟨ha, hnot⟩
    · refine ⟨ha, ?_⟩
      rintro ⟨old, new, hlost, -⟩
      exact absurd (hempty.symm.trans hlost) (List.cons_ne_nil _ _).symm
  · rintro ⟨ha, hnot⟩
    by_cases hempty : prefixesOf a.id lost = []
    · exact Or.inr ⟨ha, hempty⟩
    · exact Or.inl ⟨ha, hempty, hnot⟩

/-! ## The order of the lists -/

/-- Shares of different ids have nothing in common. -/
theorem nodup_flatMap_of_ids {entries : Grouping} {share : Nat × List Cidr → List Assignment}
    (hids : (entries.map Prod.fst).Nodup) (hshare : ∀ x ∈ entries, (share x).Nodup)
    (hid : ∀ x, ∀ a ∈ share x, a.id = x.1) : (entries.flatMap share).Nodup := by
  refine List.nodup_flatMap.2 ⟨hshare, ?_⟩
  refine (List.pairwise_map.1 hids).imp ?_
  intro x y hne a hx hy
  exact hne ((hid x a hx).symm.trans (hid y a hy))

theorem id_of_mem_lostBy {g : Grouping} {x : Nat × List Cidr} (h : a ∈ lostBy g x) :
    a.id = x.1 := by
  unfold lostBy at h
  split at h
  · exact absurd h List.not_mem_nil
  · exact (Grouping.mem_spread.1 h).1

theorem id_of_mem_gainedBy {g : Grouping} {x : Nat × List Cidr} (h : a ∈ gainedBy g x) :
    a.id = x.1 := by
  unfold gainedBy at h
  split at h
  · exact absurd h List.not_mem_nil
  · exact (Grouping.mem_spread.1 h).1

theorem nodup_of_mem_ofAssignments {x : Nat × List Cidr} (h : lost.Nodup)
    (hx : x ∈ Grouping.ofAssignments lost) : x.2.Nodup := by
  obtain ⟨id, cidrs⟩ := x
  obtain ⟨rfl, -⟩ := Grouping.mem_ofAssignments.1 hx
  exact Assignment.nodup_prefixesOf h

theorem ascending_removed (h : lost.Nodup) :
    Assignment.Ascending (ofChanges lost gained).removed := by
  rw [ofChanges_eq]
  refine Assignment.ascending_sort (nodup_flatMap_of_ids
    (Grouping.ascending_ofAssignments lost).nodup_ids (fun x hx => ?_)
    fun x a ha => id_of_mem_lostBy ha)
  unfold lostBy
  split
  · exact List.nodup_nil
  · exact Grouping.nodup_spread (nodup_of_mem_ofAssignments h hx)

theorem ascending_added (h : gained.Nodup) :
    Assignment.Ascending (ofChanges lost gained).added := by
  rw [ofChanges_eq]
  refine Assignment.ascending_sort (List.nodup_append'.2 ⟨?_, ?_, ?_⟩)
  · refine nodup_flatMap_of_ids (Grouping.ascending_ofAssignments lost).nodup_ids
      (fun x _ => ?_) fun x a ha => id_of_mem_gainedBy ha
    unfold gainedBy
    split
    · exact List.nodup_nil
    · rw [Grouping.get?_ofAssignments]
      split
      · exact List.nodup_nil
      · exact Grouping.nodup_spread (Assignment.nodup_prefixesOf h)
  · refine nodup_flatMap_of_ids ?_ (fun x hx => ?_) fun x a ha => (Grouping.mem_spread.1 ha).1
    · exact (Grouping.ascending_ofAssignments gained).nodup_ids.sublist
        (List.filter_sublist.map _)
    · exact Grouping.nodup_spread (nodup_of_mem_ofAssignments h (List.mem_of_mem_filter hx))
  · -- an id that is left over lost nothing
    intro a ha hb
    exact (mem_flatMap_gainedBy.1 ha).2.1 (mem_assignments_leftover.1 hb).2

theorem ascending_reprefixed (lost gained : List Assignment) :
    (ofChanges lost gained).reprefixed.Pairwise fun r s => r.id < s.id := by
  rw [ofChanges_eq]
  refine List.Pairwise.filterMap _ ?_ (Grouping.ascending_ofAssignments lost)
  intro x y hlt r hr s hs
  rw [(reprefixing_eq_some_iff.1 hr).1, (reprefixing_eq_some_iff.1 hs).1]
  exact hlt

end Lists

end Drift

end KeaGauge.Kea
