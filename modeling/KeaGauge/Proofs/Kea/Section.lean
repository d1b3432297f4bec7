import KeaGauge.Kea.Snapshot
/-!
# The section of a document

A document that is accepted holds the section of one family and none of the
other (`Sectioned`). The members are read one after the other, so what is
proved of reading one of them (`readMember_eq_ok_iff`) carries over to all.
-/

namespace KeaGauge.Kea

open Json (Value Object)
open Net (Family)

/-- **A document has one section**: that of a family, with this content, and
none of another family. -/
structure Sectioned (o : Object) (family : Family) (content : Object) : Prop where
  found : o.get? (sectionName family) = some (.object content)
  only : ∀ other, other ≠ family → o.get? (sectionName other) = none

theorem familyOfSection?_eq_some_iff {name : String} {family : Family} :
    familyOfSection? name = some family ↔ name = sectionName family := by
  unfold familyOfSection?
  constructor
  · intro h
    have hname := List.find?_some h
    exact (of_decide_eq_true hname).symm
  · rintro rfl
    cases family <;> decide

theorem sectionName_inj {family other : Family} (h : sectionName family = sectionName other) :
    family = other := by
  cases family <;> cases other <;> simp_all [sectionName]

namespace Snapshot

variable {head next : Head} {o content : Object} {name : String} {v : Value} {family : Family}
variable {hash : Option String}

/-- **A member is accepted** as the section of the first family to have one,
or as the hash. -/
theorem readMember_eq_ok_iff :
    readMember head name v = .ok next ↔
      (∃ family, name = sectionName family ∧ head.family = none ∧
        next = { head with family := some family, content := v }) ∨
      (∀ family, name ≠ sectionName family) ∧ name = "hash" ∧
        ∃ s, v = .string s ∧ next = { head with hash := some s } := by
  unfold readMember
  cases hfamily : familyOfSection? name with
  | some family =>
    obtain rfl := familyOfSection?_eq_some_iff.1 hfamily
    constructor
    · intro h
      cases hhead : head.family with
      | none => exact .inl ⟨family, rfl, rfl, by simpa [hhead] using h.symm⟩
      | some _ => simp [hhead] at h
    · rintro (⟨other, hname, hhead, rfl⟩ | ⟨hname, -⟩)
      · obtain rfl := sectionName_inj hname
        simp [hhead]
      · exact absurd rfl (hname family)
  | none =>
    have hname : ∀ family, name ≠ sectionName family := fun family h => by
      rw [familyOfSection?_eq_some_iff.2 h] at hfamily
      exact absurd hfamily (by simp)
    cases v <;> grind

/-- The members behind a section change neither it nor its family. -/
theorem section_of_readMembers_of_isSome (h : readMembers head o = .ok next)
    (found : head.family.isSome) :
    next.family = head.family ∧ next.content = head.content ∧
      ∀ family, o.get? (sectionName family) = none := by
  induction o generalizing head with
  | nil =>
    obtain rfl := Except.ok.inj h
    exact ⟨rfl, rfl, fun _ => rfl⟩
  | cons m rest ih =>
    obtain ⟨name, v⟩ := m
    rw [readMembers] at h
    split at h
    · exact absurd h (by simp)
    · next head' hmember =>
      rcases readMember_eq_ok_iff.1 hmember with ⟨_, -, hhead, -⟩ | ⟨hname, -, s, -, rfl⟩
      · rw [hhead] at found
        exact absurd found (by simp)
      · -- a hash is of no concern to the section
        obtain ⟨hfamily, hcontent, hrest⟩ := ih h found
        refine ⟨hfamily, hcontent, fun family => ?_⟩
        rw [Object.get?_cons, if_neg (hname family).symm]
        exact hrest family

/-- The section found among the members is the only one. -/
theorem section_of_readMembers (h : readMembers head o = .ok next) (unfound : head.family = none)
    (found : next.family = some family) :
    o.get? (sectionName family) = some next.content ∧
      ∀ other, other ≠ family → o.get? (sectionName other) = none := by
  induction o generalizing head with
  | nil =>
    obtain rfl := Except.ok.inj h
    rw [unfound] at found
    exact absurd found (by simp)
  | cons m rest ih =>
    obtain ⟨name, v⟩ := m
    rw [readMembers] at h
    split at h
    · exact absurd h (by simp)
    · next head' hmember =>
      rcases readMember_eq_ok_iff.1 hmember with ⟨first, rfl, -, rfl⟩ | ⟨hname, -, s, -, rfl⟩
      · obtain ⟨hfamily, hcontent, hrest⟩ := section_of_readMembers_of_isSome h rfl
        obtain rfl : first = family := Option.some.inj (hfamily.symm.trans found)
        refine ⟨by rw [Object.get?_cons, if_pos rfl, hcontent], fun other hother => ?_⟩
        rw [Object.get?_cons, if_neg fun h => hother (sectionName_inj h)]
        exact hrest other
      · obtain ⟨hfound, honly⟩ := ih h unfound
        refine ⟨?_, fun other hother => ?_⟩
        · rw [Object.get?_cons, if_neg (hname family).symm]
          exact hfound
        · rw [Object.get?_cons, if_neg (hname other).symm]
          exact honly other hother

/-- **The section of an accepted document is its one section.** -/
theorem sectioned_of_sectionOf (h : sectionOf o = .ok (family, content, hash)) :
    Sectioned o family content := by
  unfold sectionOf at h
  split at h
  · exact absurd h (by simp)
  · next head hmembers =>
    split at h
    · exact absurd h (by simp)
    · next found content' hfamily hcontent =>
      obtain ⟨rfl, rfl, -⟩ : found = family ∧ content' = content ∧ head.hash = hash := by
        simpa using h
      obtain ⟨hfound, honly⟩ := section_of_readMembers hmembers rfl hfamily
      exact ⟨hfound.trans (congrArg some hcontent), honly⟩
    · exact absurd h (by simp)

end Snapshot

end KeaGauge.Kea
