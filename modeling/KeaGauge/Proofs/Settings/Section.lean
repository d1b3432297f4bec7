import KeaGauge.Settings.Decoding
import Mathlib.Data.List.Pairwise
/-!
# Sections of settings

Values of the right kind and width are decoded as what they show. Fields are
apart when it makes no difference which of them is set first
(`Field.Apart`); a member that leaves a section of such fields as it starts may
then stand anywhere in it, or be left out (`decodeSection_eq_of_more`). And a
value is as good as another wherever the two set the same.
-/

namespace KeaGauge.Settings

variable {α β γ σ : Type} {f : Format α} {name : String} {x y v w : α}

/-! ## Values -/

namespace Format

theorem text_of_view {s : String} (h : f.view x = .text s) : f.text x = .ok s := by
  rw [text, h]

theorem truth_of_view {b : Bool} (h : f.view x = .truth b) : f.truth x = .ok b := by
  rw [truth, h]

theorem numberBelow_of_view {n bound : Nat} (h : f.view x = .number n) (hn : n < bound) :
    f.numberBelow bound x = .ok n := by
  have hview : f.view x = .number (.ofNat n) := h
  simp only [numberBelow, hview, if_pos hn]

theorem word64_of_view {n : UInt64} (h : f.view x = .number n.toNat) : f.word64 x = .ok n := by
  rw [word64, numberBelow_of_view h n.toNat_lt, Except.map, UInt64.ofNat_toNat]

theorem word16_of_view {n : UInt16} (h : f.view x = .number n.toNat) : f.word16 x = .ok n := by
  rw [word16, numberBelow_of_view h n.toNat_lt, Except.map, UInt16.ofNat_toNat]

theorem name_of_nothing (h : f.view x = .nothing) : f.name x = .ok none := by
  rw [Format.name, h]

theorem name_of_text {s : String} (h : f.view x = .text s) : f.name x = .ok (some s) := by
  rw [Format.name, h]
  exact congrArg (Except.map some) (text_of_view h)

theorem family_of_view {family : Net.Family} (h : f.view x = .number family.number) :
    f.family x = .ok family := by
  cases family <;> rw [Format.family, numberBelow_of_view h (by decide)] <;> rfl

theorem namedPolicy_text (policy : DiscardPolicy) : namedPolicy policy.text = .ok policy := by
  cases policy <;> rfl

theorem policy_of_text {policy : DiscardPolicy} (h : f.view x = .text policy.text) :
    f.policy x = .ok policy := by
  rw [Format.policy, h]
  exact namedPolicy_text policy

theorem policy_of_table {policy : DiscardPolicy} {payload : α}
    (h : f.view x = .table [(policy.text, payload)]) (bare : f.isBare payload = true) :
    f.policy x = .ok policy := by
  simp only [Format.policy, h, namedPolicy_text, if_pos bare]

theorem decodeSection_of_table {fields : List (Field α σ)} {start : σ}
    {members : List (String × α)} (h : f.view x = .table members) :
    f.decodeSection fields start x = members.foldlM (setMember fields) start := by
  rw [decodeSection, h]

end Format

/-! ## Members -/

/-- **Two fields are apart**: set one after the other, in either order, they
come to the same. -/
def Field.Apart (g h : Field α σ) : Prop :=
  ∀ x y s r, (g.set x s >>= h.set y) = .ok r ↔ (h.set y s >>= g.set x) = .ok r

instance : Std.Symm (@Field.Apart α σ) where
  symm _ _ apart x y s r := (apart y x s r).symm

variable {fields : List (Field α σ)} {s s' r start : σ} {m n : String × α}

/-- A field is set to what its value is decoded as. -/
theorem Field.set_of {decode : α → Except Fault β} {put : β → σ → σ} {b : β}
    (h : decode x = .ok b) : (Field.of name decode put).set x s = .ok (put b s) := by
  simp only [Field.of, h, Except.map]

/-- Fields are apart when what they put in commutes. -/
theorem Field.apart_of {first second : String} {decode : α → Except Fault β} {put : β → σ → σ}
    {decode' : α → Except Fault γ} {put' : γ → σ → σ}
    (commute : ∀ b c s, put' c (put b s) = put b (put' c s)) :
    (Field.of first decode put).Apart (Field.of second decode' put') := by
  intro x y s r
  simp only [Field.of]
  cases decode x with
  | error e => cases decode' y <;> simp [Except.map, bind, Except.bind]
  | ok b => cases decode' y <;> simp [Except.map, bind, Except.bind, commute]

theorem setMember_known {g : Field α σ} (known : fields.find? (·.name = name) = some g) :
    setMember fields s (name, x) = g.set x s := by
  rw [setMember, known]

theorem setMember_unknown (unknown : name ∉ fields.map (·.name)) :
    setMember fields s (name, x) = .ok s := by
  have hnone : fields.find? (·.name = name) = none := by
    rw [List.find?_eq_none]
    intro g hg hname
    exact unknown (List.mem_map.2 ⟨g, hg, by simpa using hname⟩)
  rw [setMember, hnone]

/-- Members of different names may be set in either order. -/
theorem setMember_comm (apart : fields.Pairwise Field.Apart) (other : m.1 ≠ n.1) :
    (setMember fields s m >>= (setMember fields · n)) = .ok r ↔
      (setMember fields s n >>= (setMember fields · m)) = .ok r := by
  cases hg : fields.find? (·.name = m.1) with
  | none =>
    have hm : ∀ s, setMember fields s m = pure s := fun s => by rw [setMember, hg]; rfl
    simp only [hm, pure_bind, bind_pure]
  | some g =>
    have hm : ∀ s, setMember fields s m = g.set m.2 s := fun s => by rw [setMember, hg]
    cases hh : fields.find? (·.name = n.1) with
    | none =>
      have hn : ∀ s, setMember fields s n = pure s := fun s => by rw [setMember, hh]; rfl
      simp only [hn, pure_bind, bind_pure]
    | some h =>
      have hn : ∀ s, setMember fields s n = h.set n.2 s := fun s => by rw [setMember, hh]
      have hne : g ≠ h := by
        rintro rfl
        have hfirst : g.name = m.1 := by simpa using List.find?_some hg
        have hsecond : g.name = n.1 := by simpa using List.find?_some hh
        exact other (hfirst.symm.trans hsecond)
      have hapart : g.Apart h := apart.forall (List.mem_of_find?_eq_some hg)
        (List.mem_of_find?_eq_some hh) hne
      simp only [hm, hn]
      exact hapart _ _ _ _

/-- A member that leaves a section as it is still does when a member of another
name is set. -/
theorem setMember_idle (apart : fields.Pairwise Field.Apart)
    (idle : setMember fields s n = .ok s) (other : m.1 ≠ n.1)
    (hset : setMember fields s m = .ok s') : setMember fields s' n = .ok s' := by
  have hfirst : (setMember fields s n >>= (setMember fields · m)) = .ok s' := by
    rw [idle]
    exact hset
  have hsecond := (setMember_comm apart other).2 hfirst
  rwa [hset] at hsecond

/-- **The order of members makes no difference.** -/
theorem foldlM_perm (apart : fields.Pairwise Field.Apart) {ms ns : List (String × α)}
    (perm : ms.Perm ns) (once : (ms.map (·.1)).Nodup)
    (h : ms.foldlM (setMember fields) s = .ok r) : ns.foldlM (setMember fields) s = .ok r := by
  induction perm generalizing s with
  | nil => exact h
  | cons m _ ih =>
    rw [List.foldlM_cons] at h ⊢
    cases hset : setMember fields s m with
    | error e =>
      rw [hset] at h
      exact absurd h (by simp [bind, Except.bind])
    | ok s' =>
      rw [hset] at h
      exact ih (List.nodup_cons.1 once).2 h
  | swap m n rest =>
    have hother : n.1 ≠ m.1 := fun heq => by simp [heq] at once
    simp only [List.foldlM_cons, ← bind_assoc] at h ⊢
    cases hpair : setMember fields s n >>= (setMember fields · m) with
    | error e =>
      rw [hpair] at h
      exact absurd h (by simp [bind, Except.bind])
    | ok s' =>
      rw [hpair] at h
      rw [(setMember_comm apart hother).1 hpair]
      exact h
  | trans first _ ihfirst ihsecond =>
    exact ihsecond ((first.map _).nodup_iff.1 once) (ihfirst once h)

/-- A member sets its field to what its value is decoded as. -/
theorem foldlM_known {first second : String} {decode : α → Except Fault β} {put : β → σ → σ}
    {b : β} {rest : List (String × α)}
    (known : fields.find? (·.name = first) = some (.of second decode put))
    (h : decode x = .ok b) : ((first, x) :: rest).foldlM (setMember fields) s =
      rest.foldlM (setMember fields) (put b s) := by
  rw [List.foldlM_cons, setMember_known known, Field.set_of h]
  rfl

/-- **A member that leaves the start as it is may be left out**, wherever it
stands. -/
theorem foldlM_idle (apart : fields.Pairwise Field.Apart)
    (idle : setMember fields s n = .ok s) {front back : List (String × α)}
    (once : ∀ m ∈ front, m.1 ≠ n.1) :
    (front ++ n :: back).foldlM (setMember fields) s =
      (front ++ back).foldlM (setMember fields) s := by
  induction front generalizing s with
  | nil =>
    rw [List.nil_append, List.foldlM_cons, idle]
    rfl
  | cons m rest ih =>
    rw [List.cons_append, List.cons_append, List.foldlM_cons, List.foldlM_cons]
    cases hset : setMember fields s m with
    | error e => rfl
    | ok s' =>
      exact ih (setMember_idle apart idle (once m List.mem_cons_self) hset)
        fun m hm => once m (List.mem_cons_of_mem _ hm)

/-- **A table with one member more**, of a name that no other member has. -/
inductive Format.More (f : Format α) (name : String) (x v w : α) : Prop where
  | intro {front back : List (String × α)} (less : f.view v = .table (front ++ back))
      (more : f.view w = .table (front ++ (name, x) :: back))
      (once : ∀ m ∈ front ++ back, m.1 ≠ name)

theorem decodeSection_eq_of_more (more : f.More name x v w) (apart : fields.Pairwise Field.Apart)
    (idle : setMember fields start (name, x) = .ok start) :
    f.decodeSection fields start v = f.decodeSection fields start w := by
  obtain ⟨less, more, once⟩ := more
  rw [Format.decodeSection_of_table less, Format.decodeSection_of_table more]
  exact (foldlM_idle apart idle fun m hm => once m (List.mem_append_left _ hm)).symm

/-- A member in place of another that sets the same. -/
theorem decodeSection_eq_of_member {front back : List (String × α)}
    (before : f.view v = .table (front ++ (name, x) :: back))
    (after : f.view w = .table (front ++ (name, y) :: back))
    (same : ∀ s, setMember fields s (name, x) = setMember fields s (name, y)) :
    f.decodeSection fields start v = f.decodeSection fields start w := by
  rw [Format.decodeSection_of_table before, Format.decodeSection_of_table after]
  simp only [List.foldlM_append, List.foldlM_cons, same]

/-! ## Items -/

theorem foldlM_setItem_eq {front back : List α}
    (same : ∀ g, fields[front.length]? = some g → ∀ s, g.set x s = g.set y s) :
    (fields.zip (front ++ x :: back)).foldlM setItem s =
      (fields.zip (front ++ y :: back)).foldlM setItem s := by
  induction fields generalizing front s with
  | nil => rfl
  | cons g rest ih =>
    cases front with
    | nil =>
      simp only [List.nil_append, List.zip_cons_cons, List.foldlM_cons, setItem, same g rfl]
    | cons z front =>
      simp only [List.cons_append, List.zip_cons_cons, List.foldlM_cons]
      exact bind_congr fun s' => ih fun g hg => same g (by simpa using hg)

/-- An item in place of another that sets the same. -/
theorem decodeSection_eq_of_item {front back : List α}
    (before : f.view v = .list (front ++ x :: back))
    (after : f.view w = .list (front ++ y :: back))
    (same : ∀ g, fields[front.length]? = some g → ∀ s, g.set x s = g.set y s) :
    f.decodeSection fields start v = f.decodeSection fields start w := by
  have hlength : (front ++ x :: back).length = (front ++ y :: back).length := by simp
  simp only [Format.decodeSection, before, after, hlength, foldlM_setItem_eq same]

/-! ## The sections that there are -/

namespace Format

theorem apart_pollingFields (f : Format α) : f.pollingFields.Pairwise Field.Apart :=
  List.pairwise_pair.2 (Field.apart_of fun _ _ _ => rfl)

theorem apart_collectingFields (f : Format α) : f.collectingFields.Pairwise Field.Apart :=
  List.pairwise_pair.2 (Field.apart_of fun _ _ _ => rfl)

theorem apart_carbonFields (f : Format α) : f.carbonFields.Pairwise Field.Apart := by
  simp only [carbonFields, List.pairwise_cons, List.forall_mem_cons, List.not_mem_nil,
    false_imp_iff, implies_true, List.Pairwise.nil, and_true]
  and_intros <;> exact Field.apart_of fun _ _ _ => rfl

theorem apart_targetFields (f : Format α) : f.targetFields.Pairwise Field.Apart := by
  simp only [targetFields, List.pairwise_cons, List.forall_mem_cons, List.not_mem_nil,
    false_imp_iff, implies_true, List.Pairwise.nil, and_true]
  and_intros <;> exact Field.apart_of fun _ _ _ => rfl

theorem apart_sections (f : Format α) : f.sections.Pairwise Field.Apart := by
  simp only [sections, List.pairwise_cons, List.forall_mem_cons, List.not_mem_nil,
    false_imp_iff, implies_true, List.Pairwise.nil, and_true]
  and_intros <;> exact Field.apart_of fun _ _ _ => rfl

end Format

end KeaGauge.Settings
