import KeaGauge.Kea.Grouping
import KeaGauge.Proofs.Kea.Assignment
import Mathlib.Data.List.Induction
/-!
# What a grouping holds

A grouping of assignments has an entry for exactly the ids that the
assignments have, and each entry holds the prefixes of its id in the order of
the assignments (`mem_ofAssignments`). Its ids ascend, so looking an id up
finds its entry (`get?_eq_some_iff`).
-/

namespace KeaGauge.Kea

open Net (Cidr)

namespace Assignment

variable {xs : List Assignment} {id : Nat} {c : Cidr}

/-- The prefixes of an id among assignments. -/
def prefixesOf (id : Nat) (assignments : List Assignment) : List Cidr :=
  (assignments.filter fun a => a.id = id).map (·.cidr)

@[simp]
theorem mem_prefixesOf : c ∈ prefixesOf id xs ↔ ⟨id, c⟩ ∈ xs := by
  simp only [prefixesOf, List.mem_map, List.mem_filter, decide_eq_true_eq]
  constructor
  · rintro ⟨⟨_, _⟩, ⟨h, rfl⟩, rfl⟩
    exact h
  · intro h
    exact ⟨⟨id, c⟩, ⟨h, rfl⟩, rfl⟩

theorem prefixesOf_append (id : Nat) (xs ys : List Assignment) :
    prefixesOf id (xs ++ ys) = prefixesOf id xs ++ prefixesOf id ys := by
  simp [prefixesOf]

theorem nodup_prefixesOf (h : xs.Nodup) : (prefixesOf id xs).Nodup := by
  refine List.Nodup.map_on ?_ (h.filter _)
  rintro ⟨i, c⟩ hc ⟨j, d⟩ hd (rfl : c = d)
  obtain rfl : i = id := by simpa using (List.mem_filter.1 hc).2
  obtain rfl : j = i := by simpa using (List.mem_filter.1 hd).2
  rfl

/-- **An id has a single prefix** exactly when the list of its prefixes is
that one, the assignments being listed once each. -/
theorem prefixesOf_eq_singleton_iff (h : xs.Nodup) :
    prefixesOf id xs = [c] ↔ ∀ d, ⟨id, d⟩ ∈ xs ↔ d = c := by
  constructor
  · intro heq d
    rw [← mem_prefixesOf, heq, List.mem_singleton]
  · intro hall
    refine List.perm_singleton.1 ((List.perm_ext_iff_of_nodup (nodup_prefixesOf h)
      (List.nodup_singleton c)).2 fun d => ?_)
    rw [mem_prefixesOf, hall, List.mem_singleton]

end Assignment

open Assignment (prefixesOf mem_prefixesOf prefixesOf_append)

namespace Grouping

variable {g : Grouping} {id : Nat} {cidrs : List Cidr} {a : Assignment}

@[simp]
theorem mem_spread : a ∈ spread id cidrs ↔ a.id = id ∧ a.cidr ∈ cidrs := by
  simp only [spread, List.mem_map]
  constructor
  · rintro ⟨c, hc, rfl⟩
    exact ⟨rfl, hc⟩
  · rintro ⟨rfl, hc⟩
    exact ⟨a.cidr, hc, rfl⟩

theorem nodup_spread (h : cidrs.Nodup) : (spread id cidrs).Nodup :=
  h.map fun _ _ heq => congrArg Assignment.cidr heq

/-- The ids of a grouping ascend. -/
def Ascending (g : Grouping) : Prop := g.Pairwise fun x y => x.1 < y.1

theorem Ascending.nodup_ids (h : Ascending g) : (g.map Prod.fst).Nodup :=
  List.pairwise_map.2 (List.Pairwise.imp (R := fun x y : Nat × List Cidr => x.1 < y.1)
    (fun hlt heq => absurd heq (Nat.ne_of_lt hlt)) h)

/-- No entry behind the first has its id or a smaller one. -/
theorem Ascending.not_mem_rest {i : Nat} {ds : List Cidr} {rest : Grouping}
    (h : Ascending ((i, ds) :: rest)) (hle : id ≤ i) (cidrs : List Cidr) : (id, cidrs) ∉ rest := by
  intro hmem
  have : i < id := (List.pairwise_cons.1 h).1 _ hmem
  omega

/-! ## Adding an assignment -/

theorem id_mem_add {x : Nat × List Cidr} (h : x ∈ add a g) :
    x.1 = a.id ∨ ∃ y ∈ g, y.1 = x.1 := by
  induction g with
  | nil => exact Or.inl (by rw [List.mem_singleton.1 h])
  | cons y rest ih =>
    unfold add at h
    split at h
    · rcases List.mem_cons.1 h with rfl | h
      · exact Or.inl rfl
      · exact Or.inr ⟨x, h, rfl⟩
    · split at h
      · rcases List.mem_cons.1 h with rfl | h
        · exact Or.inr ⟨y, List.mem_cons_self, rfl⟩
        · exact Or.inr ⟨x, List.mem_cons_of_mem _ h, rfl⟩
      · rcases List.mem_cons.1 h with rfl | h
        · exact Or.inr ⟨_, List.mem_cons_self, rfl⟩
        · rcases ih h with h | ⟨z, hz, hid⟩
          · exact Or.inl h
          · exact Or.inr ⟨z, List.mem_cons_of_mem _ hz, hid⟩

theorem ascending_add (h : Ascending g) : Ascending (add a g) := by
  induction g with
  | nil => exact List.pairwise_singleton _ _
  | cons y rest ih =>
    obtain ⟨hy, hrest⟩ := List.pairwise_cons.1 h
    unfold add
    split
    · next hlt =>
      refine List.pairwise_cons.2 ⟨fun z hz => ?_, h⟩
      rcases List.mem_cons.1 hz with rfl | hz
      · exact hlt
      · exact Nat.lt_trans hlt (hy z hz)
    · next hge =>
      split
      · exact List.pairwise_cons.2 ⟨hy, hrest⟩
      · next hne =>
        refine List.pairwise_cons.2 ⟨fun z hz => ?_, ih hrest⟩
        rcases id_mem_add hz with hid | ⟨w, hw, hid⟩
        · change y.1 < z.1
          omega
        · exact hid ▸ hy w hw

/-- **The entries after an assignment is added**: that of its id has one more
prefix, or is new with that prefix alone; the others are as they were. -/
theorem mem_add (h : Ascending g) :
    (id, cidrs) ∈ add a g ↔
      if id = a.id then
        (∃ old, (id, old) ∈ g ∧ cidrs = old ++ [a.cidr]) ∨
          ((∀ old, (id, old) ∉ g) ∧ cidrs = [a.cidr])
      else (id, cidrs) ∈ g := by
  induction g with
  | nil =>
    by_cases hid : id = a.id <;> simp [add, hid]
  | cons y rest ih =>
    obtain ⟨i, ds⟩ := y
    have hrest := (List.pairwise_cons.1 h).2
    unfold add
    split
    · next hlt =>
      -- a new entry in front of all
      by_cases hid : id = a.id
      · have hnone : ∀ old, (id, old) ∉ (i, ds) :: rest := by
          intro old hmem
          rcases List.mem_cons.1 hmem with heq | hmem
          · have : id = i := congrArg Prod.fst heq
            omega
          · exact h.not_mem_rest (by omega) old hmem
        rw [if_pos hid, List.mem_cons]
        constructor
        · rintro (heq | hmem)
          · exact Or.inr ⟨hnone, congrArg Prod.snd heq⟩
          · exact absurd hmem (hnone cidrs)
        · rintro (⟨old, hmem, -⟩ | ⟨-, rfl⟩)
          · exact absurd hmem (hnone old)
          · exact Or.inl (by rw [hid])
      · rw [if_neg hid, List.mem_cons, or_iff_right]
        exact fun heq => hid (congrArg Prod.fst heq)
    · split
      · next hid' =>
        -- the first entry has the id, and none behind it does
        by_cases hid : id = a.id
        · have hrest' : ∀ old, (id, old) ∉ rest := h.not_mem_rest (by omega)
          have hi : id = i := hid.trans hid'
          subst hi
          simp [← hid, hrest']
        · have hi : id ≠ i := fun h => hid (h.trans hid'.symm)
          simp [hid, hi]
      · next hne =>
        rw [List.mem_cons, ih hrest]
        by_cases hid : id = a.id
        · have hi : id ≠ i := fun h => hne (hid.symm.trans h)
          simp [hid, hid ▸ hi]
        · simp [hid]

/-! ## Grouping assignments -/

theorem ofAssignments_append (xs : List Assignment) (a : Assignment) :
    ofAssignments (xs ++ [a]) = add a (ofAssignments xs) := by
  simp [ofAssignments]

theorem ascending_ofAssignments (xs : List Assignment) : Ascending (ofAssignments xs) := by
  induction xs using List.reverseRecOn with
  | nil => exact List.Pairwise.nil
  | append_singleton xs a ih =>
    rw [ofAssignments_append]
    exact ascending_add ih

/-- **The entries of a grouping**: the ids that have a prefix, each with all
of its prefixes. -/
theorem mem_ofAssignments {xs : List Assignment} :
    (id, cidrs) ∈ ofAssignments xs ↔ cidrs = prefixesOf id xs ∧ cidrs ≠ [] := by
  induction xs using List.reverseRecOn generalizing cidrs with
  | nil =>
    simp only [ofAssignments, List.foldl_nil, List.not_mem_nil, prefixesOf, List.filter_nil,
      List.map_nil, false_iff, not_and, not_not]
    exact fun h => h
  | append_singleton xs a ih =>
    rw [ofAssignments_append, mem_add (ascending_ofAssignments xs), prefixesOf_append]
    by_cases hid : id = a.id
    · have ha : prefixesOf id [a] = [a.cidr] := by simp [prefixesOf, hid]
      rw [if_pos hid, ha]
      constructor
      · rintro (⟨old, hold, rfl⟩ | ⟨hnone, rfl⟩)
        · rw [(ih.1 hold).1]
          exact ⟨rfl, by simp⟩
        · have hempty : prefixesOf id xs = [] := by
            by_contra hne
            exact hnone _ (ih.2 ⟨rfl, hne⟩)
          rw [hempty]
          exact ⟨rfl, by simp⟩
      · rintro ⟨rfl, -⟩
        by_cases hempty : prefixesOf id xs = []
        · refine Or.inr ⟨fun old hold => ?_, by rw [hempty, List.nil_append]⟩
          exact (ih.1 hold).2 ((ih.1 hold).1.trans hempty)
        · exact Or.inl ⟨_, ih.2 ⟨rfl, hempty⟩, rfl⟩
    · have ha : prefixesOf id [a] = [] := by simp [prefixesOf, Ne.symm hid]
      rw [if_neg hid, ha, List.append_nil]
      exact ih

/-! ## Looking up -/

theorem get?_eq_some_iff (h : Ascending g) : g.get? id = some cidrs ↔ (id, cidrs) ∈ g := by
  induction g with
  | nil => simp [get?]
  | cons y rest ih =>
    obtain ⟨i, ds⟩ := y
    have hrest := (List.pairwise_cons.1 h).2
    unfold get? at ih ⊢
    by_cases hid : id = i
    · subst hid
      have hrest' : (id, cidrs) ∉ rest := h.not_mem_rest (Nat.le_refl _) cidrs
      simp [hrest', eq_comm]
    · have hbeq : (id == i) = false := beq_false_of_ne hid
      simp [List.lookup_cons, hbeq, hid, ih hrest]

theorem get?_erase (g : Grouping) (erased id : Nat) :
    (g.erase erased).get? id = if id = erased then none else g.get? id := by
  unfold get? erase
  induction g with
  | nil => simp
  | cons y rest ih =>
    obtain ⟨i, ds⟩ := y
    by_cases hi : i = erased
    · subst hi
      rw [List.filter_cons_of_neg (by simp), ih]
      by_cases hid : id = i
      · simp [hid]
      · have hbeq : (id == i) = false := beq_false_of_ne hid
        simp [List.lookup_cons, hbeq, hid]
    · rw [List.filter_cons_of_pos (by simpa using hi), List.lookup_cons, List.lookup_cons, ih]
      by_cases hid : id = i
      · subst hid
        simp [hi]
      · have hbeq : (id == i) = false := beq_false_of_ne hid
        simp [hbeq]

/-- Erasing an id that has no entry changes nothing. -/
theorem erase_of_get?_eq_none (h : g.get? id = none) : g.erase id = g := by
  refine List.filter_eq_self.2 fun x hx => ?_
  have hne : id ≠ x.1 := bne_iff_ne.1 (List.lookup_eq_none_iff.1 h x hx)
  exact decide_eq_true hne.symm

/-- **Looking an id up in a grouping of assignments** finds its prefixes. -/
theorem get?_ofAssignments (xs : List Assignment) (id : Nat) :
    (ofAssignments xs).get? id =
      if prefixesOf id xs = [] then none else some (prefixesOf id xs) := by
  split
  · next hempty =>
    -- an id without prefixes has no entry, for entries are not empty
    rw [Option.eq_none_iff_forall_ne_some]
    intro cidrs h
    obtain ⟨heq, hne⟩ := mem_ofAssignments.1 ((get?_eq_some_iff (ascending_ofAssignments xs)).1 h)
    exact hne (heq.trans hempty)
  · next hne =>
    exact (get?_eq_some_iff (ascending_ofAssignments xs)).2 (mem_ofAssignments.2 ⟨rfl, hne⟩)

end Grouping

end KeaGauge.Kea
