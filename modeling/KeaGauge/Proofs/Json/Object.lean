import KeaGauge.Json.Value
import Mathlib.Data.String.Basic
/-!
# Members in order

Objects made of members, whatever the order they are given in, hold them in
ascending order of their names (`Object.ascending_ofMembers`). Made again of
its own members an object stays what it is (`Object.ofMembers_ofMembers`),
the values do not matter for the order (`Object.ofMembers_mapValues`), and
members of different names are all kept (`Object.perm_ofMembers`).
-/

namespace KeaGauge.Json.Object

variable {o : Object} {name : String} {v : Value}

/-- The members stand in ascending order of their names. -/
def Ascending (o : Object) : Prop := o.Pairwise fun m n => m.1 < n.1

theorem mem_insert {m : String × Value} (h : m ∈ o.insert name v) : m = (name, v) ∨ m ∈ o := by
  induction o with
  | nil => simpa [insert] using h
  | cons first rest ih =>
    obtain ⟨other, w⟩ := first
    unfold insert at h
    split at h
    · simpa using h
    · split at h
      · rcases List.mem_cons.1 h with h | h
        · exact .inl h
        · exact .inr (List.mem_cons_of_mem _ h)
      · rcases List.mem_cons.1 h with rfl | h
        · exact .inr List.mem_cons_self
        · exact (ih h).imp_right (List.mem_cons_of_mem _)

theorem Ascending.insert (h : o.Ascending) (name : String) (v : Value) :
    (o.insert name v).Ascending := by
  induction o with
  | nil => exact List.pairwise_singleton _ _
  | cons first rest ih =>
    obtain ⟨other, w⟩ := first
    obtain ⟨hfirst, hrest⟩ := List.pairwise_cons.1 h
    unfold Object.insert
    split
    · next hlt =>
      refine List.pairwise_cons.2 ⟨fun m hm => ?_, h⟩
      rcases List.mem_cons.1 hm with rfl | hm
      · exact hlt
      · exact hlt.trans (hfirst m hm)
    · next hnot =>
      split
      · next heq =>
        subst heq
        exact List.pairwise_cons.2 ⟨hfirst, hrest⟩
      · next hne =>
        refine List.pairwise_cons.2 ⟨fun m hm => ?_, ih hrest⟩
        rcases mem_insert hm with rfl | hm
        · exact lt_of_le_of_ne (not_lt.1 hnot) (Ne.symm hne)
        · exact hfirst m hm

/-- **Whatever their order, members are put in ascending order.** -/
theorem ascending_ofMembers (members : List (String × Value)) : (ofMembers members).Ascending := by
  suffices h : ∀ o : Object, o.Ascending →
      (members.foldl (fun o m => o.insert m.1 m.2) o).Ascending from h _ List.Pairwise.nil
  induction members with
  | nil => exact fun o h => h
  | cons m rest ih => exact fun o h => ih _ (h.insert m.1 m.2)

/-- Where names stand in order, each of them has one member. -/
theorem Ascending.get?_eq_some_iff (h : o.Ascending) : o.get? name = some v ↔ (name, v) ∈ o := by
  induction o with
  | nil => simp [get?]
  | cons first rest ih =>
    obtain ⟨other, w⟩ := first
    obtain ⟨hfirst, hrest⟩ := List.pairwise_cons.1 h
    rw [get?_cons, List.mem_cons]
    split
    · next heq =>
      subst heq
      have hnot : (name, v) ∉ rest := fun hm => absurd (hfirst _ hm) (lt_irrefl name)
      simp [hnot, eq_comm]
    · next hne => simp [hne, ih hrest]

/-- **Members in order are determined by what they are.** -/
theorem Ascending.ext {p : Object} (ho : o.Ascending) (hp : p.Ascending)
    (h : ∀ m, m ∈ o ↔ m ∈ p) : o = p := by
  have nodup : ∀ {q : Object}, q.Ascending → q.Nodup := fun hq =>
    List.Pairwise.imp (fun hlt heq => absurd (congrArg Prod.fst heq) (ne_of_lt hlt)) hq
  refine List.Perm.eq_of_pairwise (fun m n _ _ hmn hnm => ?_) ho hp
    ((List.perm_ext_iff_of_nodup (nodup ho) (nodup hp)).2 h)
  exact absurd hmn (lt_asymm hnm)

/-- A member whose name is behind all others goes to the end. -/
theorem insert_last (h : ∀ m ∈ o, m.1 < name) : o.insert name v = o ++ [(name, v)] := by
  induction o with
  | nil => rfl
  | cons first rest ih =>
    obtain ⟨other, w⟩ := first
    have hlt : other < name := h _ List.mem_cons_self
    rw [insert, if_neg hlt.not_gt, if_neg hlt.ne', ih fun m hm => h m (List.mem_cons_of_mem _ hm)]
    rfl

/-- Members in ascending order stay as they are. -/
theorem ofMembers_of_ascending (h : o.Ascending) : ofMembers o = o := by
  suffices hfold : ∀ front : Object, (front ++ o).Ascending →
      o.foldl (fun o m => o.insert m.1 m.2) front = front ++ o from hfold [] h
  induction o with
  | nil => simp
  | cons m rest ih =>
    intro front hfront
    have hlast : ∀ n ∈ front, n.1 < m.1 := fun n hn =>
      (List.pairwise_append.1 hfront).2.2 n hn m List.mem_cons_self
    have hshift : front ++ m :: rest = (front ++ [m]) ++ rest := by simp
    rw [List.foldl_cons, insert_last hlast, hshift]
    exact ih (List.pairwise_cons.1 h).2 _ (hshift ▸ hfront)

theorem ofMembers_ofMembers (members : List (String × Value)) :
    ofMembers (ofMembers members) = ofMembers members :=
  ofMembers_of_ascending (ascending_ofMembers members)

/-- Members of other names do not touch the member of a name. -/
theorem get?_ofMembers_append {members further : List (String × Value)}
    (h : ∀ m ∈ further, m.1 ≠ name) :
    (ofMembers (members ++ further)).get? name = (ofMembers members).get? name := by
  rw [ofMembers, List.foldl_append, ← ofMembers]
  generalize ofMembers members = o
  induction further generalizing o with
  | nil => rfl
  | cons m rest ih =>
    rw [List.foldl_cons, ih (fun n hn => h n (List.mem_cons_of_mem _ hn)), get?_insert,
      if_neg (h m List.mem_cons_self).symm]

/-- The members with their values changed. -/
def mapValues (f : Value → Value) (o : Object) : Object := o.map fun m => (m.1, f m.2)

theorem insert_mapValues (f : Value → Value) (o : Object) (name : String) (v : Value) :
    insert (mapValues f o) name (f v) = mapValues f (o.insert name v) := by
  induction o with
  | nil => rfl
  | cons first rest ih =>
    obtain ⟨other, w⟩ := first
    simp only [mapValues, List.map_cons, insert] at ih ⊢
    split
    · rfl
    · split
      · rfl
      · rw [List.map_cons, ih]

/-- **The order is a matter of names only.** -/
theorem ofMembers_mapValues (f : Value → Value) (members : List (String × Value)) :
    ofMembers (mapValues f members) = mapValues f (ofMembers members) := by
  suffices h : ∀ o : Object,
      (mapValues f members).foldl (fun o m => o.insert m.1 m.2) (mapValues f o) =
        mapValues f (members.foldl (fun o m => o.insert m.1 m.2) o) from h []
  induction members with
  | nil => exact fun o => rfl
  | cons m rest ih =>
    intro o
    rw [List.foldl_cons, ← ih, ← insert_mapValues]
    rfl

/-- A member of a new name is put somewhere. -/
theorem perm_insert (h : ∀ m ∈ o, m.1 ≠ name) : (o.insert name v).Perm ((name, v) :: o) := by
  induction o with
  | nil => exact List.Perm.refl _
  | cons first rest ih =>
    obtain ⟨other, w⟩ := first
    unfold insert
    split
    · exact List.Perm.refl _
    split
    · next heq => exact absurd heq.symm (h _ List.mem_cons_self)
    · exact ((ih fun m hm => h m (List.mem_cons_of_mem _ hm)).cons _).trans (.swap ..)

/-- **Members of different names are all kept**, whatever their order. -/
theorem perm_ofMembers {members : List (String × Value)} (h : (members.map (·.1)).Nodup) :
    (ofMembers members).Perm members := by
  suffices hfold : ∀ o : Object, (∀ m ∈ o, m.1 ∉ members.map (·.1)) →
      (members.foldl (fun o m => o.insert m.1 m.2) o).Perm (members ++ o) by
    have hperm := hfold [] fun _ hm => absurd hm List.not_mem_nil
    rw [List.append_nil] at hperm
    exact hperm
  induction members with
  | nil => exact fun o _ => List.Perm.refl _
  | cons m rest ih =>
    intro o ho
    obtain ⟨hm, hrest⟩ := List.nodup_cons.1 h
    have hperm : (o.insert m.1 m.2).Perm (m :: o) :=
      perm_insert fun n hn heq => ho n hn (heq ▸ List.mem_cons_self)
    refine (ih hrest (o.insert m.1 m.2) fun n hn => ?_).trans ?_
    · rcases mem_insert hn with rfl | hn
      · exact hm
      · exact fun hmem => ho n hn (List.mem_cons_of_mem _ hmem)
    · exact (hperm.append_left rest).trans List.perm_middle

/-- Every member of an object made of members is one of these. -/
theorem mem_ofMembers {m : String × Value} {members : List (String × Value)}
    (h : m ∈ ofMembers members) : m ∈ members := by
  suffices hfold : ∀ o : Object, m ∈ members.foldl (fun o m => o.insert m.1 m.2) o →
      m ∈ o ∨ m ∈ members by
    rcases hfold [] h with h | h
    · exact absurd h List.not_mem_nil
    · exact h
  clear h
  induction members with
  | nil => exact fun o h => .inl h
  | cons first rest ih =>
    intro o h
    rcases ih _ h with h | h
    · rcases mem_insert h with rfl | h
      · exact .inr List.mem_cons_self
      · exact .inl h
    · exact .inr (List.mem_cons_of_mem _ h)

end KeaGauge.Json.Object
