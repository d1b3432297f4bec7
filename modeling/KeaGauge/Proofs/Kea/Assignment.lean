import KeaGauge.Kea.Assignment
import Mathlib.Data.List.Nodup
import Mathlib.Tactic.Common
/-!
# Assignments in ascending order

`Assignment.precedes` compares ranks. `Assignment.Before` says the same order
part by part: by id, IPv4 before IPv6, by address, by length. It is strict and
linear, so an ascending list is determined by the assignments in it
(`Ascending.ext`), and two lists have the same set exactly when they have the
same assignments (`setOf_eq_setOf_iff`).
-/

namespace KeaGauge.Kea

open Net (Cidr Family)

/-! ## The order of prefixes -/

/-- Every address is below the number of IPv6 addresses. -/
theorem value_lt (c : Cidr) : c.address.value < Nat.pow 2 128 := by
  have h : c.address.value < Nat.pow 2 c.address.family.width := c.address.bits.isLt
  refine Nat.lt_of_lt_of_le h (Nat.pow_le_pow_right (by decide) ?_)
  cases c.address.family <;> decide

/-- A prefix length takes less than a byte. -/
theorem length_lt (c : Cidr) : c.length < 256 := by
  have h : c.length ≤ c.address.family.width := c.length_le
  refine Nat.lt_of_le_of_lt h ?_
  cases c.address.family <;> decide

/-- The order of prefixes: IPv4 before IPv6, then by address, then by length. -/
def PrefixBefore (c d : Cidr) : Prop :=
  c.family.number < d.family.number ∨ c.family.number = d.family.number ∧
    (c.address.value < d.address.value ∨ c.address.value = d.address.value ∧
      c.length < d.length)

/-- **Ranks are in the order of the parts.** -/
theorem rank_lt_rank_iff {c d : Cidr} : c.rank < d.rank ↔ PrefixBefore c d := by
  have hc := value_lt c
  have hd := value_lt d
  have hlc := length_lt c
  have hld := length_lt d
  rw [Nat.pow_eq] at hc hd
  unfold Cidr.rank PrefixBefore
  cases c.family <;> cases d.family <;> simp only [Family.number, Nat.pow_eq, true_and] <;>
    omega

/-- Prefixes of one rank are equal. -/
theorem eq_of_rank_eq {c d : Cidr} (h : c.rank = d.rank) : c = d := by
  have hc := value_lt c
  have hd := value_lt d
  have hlc := length_lt c
  have hld := length_lt d
  obtain ⟨⟨f, x⟩, m, hm⟩ := c
  obtain ⟨⟨g, y⟩, n, hn⟩ := d
  have hfamily : f = g := by
    cases f <;> cases g <;>
      simp only [Cidr.rank, Cidr.family, Nat.pow_eq] at h hc hd hlc hld ⊢ <;> omega
  subst hfamily
  have hvalue : x.toNat = y.toNat := by
    simp only [Cidr.rank, Cidr.family, Net.Address.value, Nat.pow_eq] at h hc hd hlc hld
    cases f <;> omega
  have hlength : m = n := by
    simp only [Cidr.rank, Cidr.family, Net.Address.value, Nat.pow_eq, hvalue] at h
    omega
  subst hlength
  rw [BitVec.eq_of_toNat_eq hvalue]

namespace Assignment

/-! ## The order of assignments -/

/-- The order of assignments: by id, then by prefix. -/
def Before (a b : Assignment) : Prop :=
  a.id < b.id ∨ a.id = b.id ∧ PrefixBefore a.cidr b.cidr

theorem precedes_iff {a b : Assignment} :
    a.precedes b = true ↔ a.id < b.id ∨ a.id = b.id ∧ a.cidr.rank < b.cidr.rank := by
  simp [precedes]

/-- **Comparing ranks decides the order.** -/
theorem precedes_iff_before {a b : Assignment} : a.precedes b = true ↔ Before a b := by
  rw [precedes_iff, rank_lt_rank_iff]
  rfl

theorem precedes_trans {a b c : Assignment} (hab : a.precedes b) (hbc : b.precedes c) :
    a.precedes c := by
  rw [precedes_iff] at hab hbc ⊢
  omega

theorem not_precedes_self (a : Assignment) : ¬ a.precedes a := by
  rw [precedes_iff]
  omega

/-- Of two different assignments one comes before the other. -/
theorem precedes_of_ne {a b : Assignment} (hne : a ≠ b) (h : ¬ a.precedes b) :
    b.precedes a := by
  rw [precedes_iff] at h ⊢
  by_contra hcon
  have hid : a.id = b.id := by omega
  have hrank : a.cidr.rank = b.cidr.rank := by omega
  refine hne ?_
  obtain ⟨i, c⟩ := a
  obtain ⟨j, d⟩ := b
  obtain rfl : i = j := hid
  obtain rfl : c = d := eq_of_rank_eq hrank
  rfl

/-! ## Ascending lists -/

/-- Whether a list is ascending, without repetition. -/
def Ascending (assignments : List Assignment) : Prop :=
  assignments.Pairwise fun a b => a.precedes b

namespace Ascending

variable {xs ys : List Assignment}

theorem nodup (h : Ascending xs) : xs.Nodup := by
  refine List.Pairwise.imp (R := fun a b : Assignment => a.precedes b) ?_ h
  intro a b hab heq
  rw [← heq] at hab
  exact not_precedes_self a hab

theorem filter (p : Assignment → Bool) (h : Ascending xs) : Ascending (xs.filter p) :=
  List.Pairwise.filter p h

/-- **An ascending list is determined by its members.** -/
theorem ext (hx : Ascending xs) (hy : Ascending ys) (h : ∀ a, a ∈ xs ↔ a ∈ ys) : xs = ys := by
  refine List.Perm.eq_of_pairwise (fun a b _ _ hab hba => ?_) hx hy
    ((List.perm_ext_iff_of_nodup hx.nodup hy.nodup).2 h)
  exact absurd (precedes_trans hab hba) (not_precedes_self a)

/-- The order of an ascending list, part by part. -/
theorem pairwise_before (h : Ascending xs) : xs.Pairwise Before :=
  List.Pairwise.imp (R := fun a b : Assignment => a.precedes b) precedes_iff_before.1 h

end Ascending

theorem ascending_insert {a : Assignment} {xs : List Assignment} (h : Ascending xs) :
    Ascending (insert a xs) := by
  induction xs with
  | nil => exact List.pairwise_singleton _ _
  | cons b rest ih =>
    obtain ⟨hb, hrest⟩ := List.pairwise_cons.1 h
    unfold insert
    split
    · next hab =>
      refine List.pairwise_cons.2 ⟨fun c hc => ?_, h⟩
      rcases List.mem_cons.1 hc with rfl | hc
      · exact hab
      · exact precedes_trans hab (hb c hc)
    · next hab =>
      split
      · exact h
      · next hne =>
        refine List.pairwise_cons.2 ⟨fun c hc => ?_, ih hrest⟩
        rcases mem_insert.1 hc with rfl | hc
        · exact precedes_of_ne hne hab
        · exact hb c hc

/-- A set is ascending. -/
theorem ascending_setOf (assignments : List Assignment) : Ascending (setOf assignments) := by
  induction assignments with
  | nil => exact List.Pairwise.nil
  | cons a rest ih => exact ascending_insert ih

/-- **Sets are equal when they have the same assignments**, in whatever order
and however often the lists had them. -/
theorem setOf_eq_setOf_iff {xs ys : List Assignment} :
    setOf xs = setOf ys ↔ ∀ a, a ∈ xs ↔ a ∈ ys := by
  constructor
  · intro h a
    rw [← mem_setOf, h, mem_setOf]
  · intro h
    refine (ascending_setOf xs).ext (ascending_setOf ys) fun a => ?_
    rw [mem_setOf, mem_setOf]
    exact h a

theorem Ascending.without {xs : List Assignment} (h : Ascending xs) (ys : List Assignment) :
    Ascending (without xs ys) :=
  h.filter _

/-! ## Sorting -/

@[simp]
theorem mem_place {a b : Assignment} {xs : List Assignment} :
    a ∈ place b xs ↔ a = b ∨ a ∈ xs := by
  induction xs with
  | nil => simp [place]
  | cons c rest ih =>
    unfold place
    split
    · simp only [List.mem_cons, ih]
      exact or_left_comm
    · simp

theorem ascending_place {a : Assignment} {xs : List Assignment} (h : Ascending xs)
    (ha : a ∉ xs) : Ascending (place a xs) := by
  induction xs with
  | nil => exact List.pairwise_singleton _ _
  | cons b rest ih =>
    obtain ⟨hb, hrest⟩ := List.pairwise_cons.1 h
    have hne : a ≠ b := List.ne_of_not_mem_cons ha
    unfold place
    split
    · next hba =>
      refine List.pairwise_cons.2 ⟨fun c hc => ?_, ih hrest (List.not_mem_of_not_mem_cons ha)⟩
      rcases mem_place.1 hc with rfl | hc
      · exact hba
      · exact hb c hc
    · next hba =>
      have hab : a.precedes b := precedes_of_ne hne.symm hba
      refine List.pairwise_cons.2 ⟨fun c hc => ?_, h⟩
      rcases List.mem_cons.1 hc with rfl | hc
      · exact hab
      · exact precedes_trans hab (hb c hc)

@[simp]
theorem mem_sort {a : Assignment} {xs : List Assignment} : a ∈ sort xs ↔ a ∈ xs := by
  induction xs with
  | nil => simp [sort]
  | cons b rest ih =>
    change a ∈ place b (sort rest) ↔ a ∈ b :: rest
    simp [ih]

/-- Sorting a list without repetition makes it ascending. -/
theorem ascending_sort {xs : List Assignment} (h : xs.Nodup) : Ascending (sort xs) := by
  induction xs with
  | nil => exact List.Pairwise.nil
  | cons a rest ih =>
    obtain ⟨ha, hrest⟩ := List.nodup_cons.1 h
    exact ascending_place (ih hrest) (mt mem_sort.1 ha)

end Assignment

end KeaGauge.Kea
