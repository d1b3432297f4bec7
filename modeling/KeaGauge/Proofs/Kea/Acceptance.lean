import KeaGauge.Proofs.Json.RoundTrip
import KeaGauge.Proofs.Kea.Section
/-!
# Which documents are configurations

A document configures a server when it is an object with the section of one
family, itself an object, without a section of the other, and with nothing
else but perhaps a hash that is a string (`Configures`). The names of members
standing in order, this leaves a single object for each section and hash
(`configures_iff`), and that object is accepted (`sectionOf_eq_ok_iff`). So a
document has a snapshot just when it configures a server, whatever its section
holds (`ofValue_accepts`).
-/

namespace KeaGauge.Kea

open Json (Value Object)
open Net (Family)

/-- **A document configures the server of a family**, with this section and
this hash. -/
inductive Configures : Value → Family → Object → Option String → Prop where
  | mk {o : Object} {family : Family} {content : Object} {hash : Option String}
      (sectioned : Sectioned o family content)
      (others : ∀ m ∈ o, m.1 ≠ sectionName family → m.1 = "hash" ∧ ∃ s, m.2 = .string s)
      (hashed : o.get? "hash" = hash.map .string) :
      Configures (.object o) family content hash

theorem hash_ne_sectionName (family : Family) : "hash" ≠ sectionName family := by
  cases family <;> decide

namespace Snapshot

variable {head next : Head} {o content : Object} {family : Family} {hash : Option String}
variable {v : Value}

/-! ## The members of a configuration -/

/-- The members of a document that configures a server. -/
def membersOf (family : Family) (content : Object) (hash : Option String) : Object :=
  (sectionName family, .object content) :: hash.toList.map fun s => ("hash", .string s)

theorem ascending_membersOf (family : Family) (content : Object) (hash : Option String) :
    (membersOf family content hash).Ascending := by
  have hbehind : sectionName family < "hash" := by cases family <;> decide
  cases hash with
  | none => exact List.pairwise_singleton _ _
  | some s => exact List.pairwise_pair.2 hbehind

theorem mem_membersOf {m : String × Value} :
    m ∈ membersOf family content hash ↔
      m = (sectionName family, .object content) ∨ ∃ s, hash = some s ∧ m = ("hash", .string s) := by
  cases hash <;> simp [membersOf]

theorem get?_membersOf (name : String) :
    (membersOf family content hash).get? name =
      if name = sectionName family then some (.object content)
      else if name = "hash" then hash.map .string else none := by
  have hempty : ∀ name, Object.get? [] name = none := fun _ => rfl
  cases hash <;> simp [membersOf, Object.get?_cons, hempty]

/-- **A configuration is known in full.** An object that configures a server
has the members said and no others. -/
theorem configures_iff (ordered : o.Ascending) :
    Configures (.object o) family content hash ↔ o = membersOf family content hash := by
  constructor
  · rintro ⟨⟨hfound, -⟩, hothers, hhash⟩
    refine ordered.ext (ascending_membersOf family content hash) fun ⟨name, v⟩ => ?_
    rw [mem_membersOf]
    constructor
    · intro hm
      by_cases hname : name = sectionName family
      · subst hname
        obtain rfl := Option.some.inj ((ordered.get?_eq_some_iff.2 hm).symm.trans hfound)
        exact .inl rfl
      · obtain ⟨rfl, s, rfl⟩ := hothers _ hm hname
        refine .inr ⟨s, ?_, rfl⟩
        have hget := hhash.symm.trans (ordered.get?_eq_some_iff.2 hm)
        obtain ⟨t, rfl, ht⟩ := Option.map_eq_some_iff.1 hget
        rw [Value.string.inj ht]
    · rintro (heq | ⟨s, rfl, heq⟩)
      · rw [heq]
        exact ordered.get?_eq_some_iff.1 hfound
      · rw [heq]
        exact ordered.get?_eq_some_iff.1 hhash
  · rintro rfl
    refine ⟨⟨?_, fun other hother => ?_⟩, fun m hm hne => ?_, ?_⟩
    · rw [get?_membersOf, if_pos rfl]
    · rw [get?_membersOf, if_neg fun heq => hother (sectionName_inj heq),
        if_neg (hash_ne_sectionName other).symm]
    · rcases mem_membersOf.1 hm with rfl | ⟨s, -, rfl⟩
      · exact absurd rfl hne
      · exact ⟨rfl, s, rfl⟩
    · rw [get?_membersOf, if_neg (hash_ne_sectionName family), if_pos rfl]

/-! ## Acceptance -/

/-- Every member of an accepted document is a section or the hash. -/
theorem member_of_readMembers (h : readMembers head o = .ok next) {m : String × Value}
    (hm : m ∈ o) :
    (∃ family, m.1 = sectionName family) ∨ m.1 = "hash" ∧ ∃ s, m.2 = .string s := by
  induction o generalizing head with
  | nil => exact absurd hm List.not_mem_nil
  | cons first rest ih =>
    obtain ⟨name, v⟩ := first
    rw [readMembers] at h
    split at h
    · exact absurd h (by simp)
    · next head' hmember =>
      rcases List.mem_cons.1 hm with rfl | hm
      · rcases readMember_eq_ok_iff.1 hmember with ⟨family, hname, -⟩ | ⟨-, hname, s, hv, -⟩
        · exact .inl ⟨family, hname⟩
        · exact .inr ⟨hname, s, hv⟩
      · exact ih h hm

/-- **An accepted document configures a server**, with some hash or none. -/
theorem configures_of_sectionOf (ordered : o.Ascending)
    (h : sectionOf o = .ok (family, content, hash)) :
    ∃ found, Configures (.object o) family content found := by
  have hsectioned := sectioned_of_sectionOf h
  obtain ⟨head, hmembers⟩ : ∃ head, readMembers ⟨none, .null, none⟩ o = .ok head := by
    unfold sectionOf at h
    split at h
    · exact absurd h (by simp)
    · next head hmembers => exact ⟨head, hmembers⟩
  have hothers : ∀ m ∈ o, m.1 ≠ sectionName family → m.1 = "hash" ∧ ∃ s, m.2 = .string s := by
    rintro ⟨name, v⟩ hm hne
    rcases member_of_readMembers hmembers hm with ⟨other, hname⟩ | hhash
    · -- the section of another family is not there
      have hother : other ≠ family := fun heq => hne (heq ▸ hname)
      have hnone := hsectioned.only other hother
      rw [← hname, ordered.get?_eq_some_iff.2 hm] at hnone
      exact absurd hnone (by simp)
    · exact hhash
  cases hget : o.get? "hash" with
  | none => exact ⟨none, .mk hsectioned hothers hget⟩
  | some v =>
    obtain ⟨-, s, rfl⟩ := hothers _ (ordered.get?_eq_some_iff.1 hget) (hash_ne_sectionName family)
    exact ⟨some s, .mk hsectioned hothers hget⟩

/-- A document that configures a server is accepted. -/
theorem sectionOf_membersOf (family : Family) (content : Object) (hash : Option String) :
    sectionOf (membersOf family content hash) = .ok (family, content, hash) := by
  have hsection : familyOfSection? (sectionName family) = some family :=
    familyOfSection?_eq_some_iff.2 rfl
  have hhash : familyOfSection? "hash" = none := by decide
  cases hash <;> simp [membersOf, sectionOf, readMembers, readMember, hsection, hhash]

/-- **The section of a document is found** just when the document configures
a server with it. -/
theorem sectionOf_eq_ok_iff (ordered : o.Ascending) :
    sectionOf o = .ok (family, content, hash) ↔ Configures (.object o) family content hash := by
  constructor
  · intro h
    obtain ⟨found, hfound⟩ := configures_of_sectionOf ordered h
    have hmembers := (configures_iff ordered).1 hfound
    -- the hash is what is read of these very members
    rw [hmembers, sectionOf_membersOf] at h
    obtain ⟨-, -, rfl⟩ : family = family ∧ content = content ∧ found = hash := by simpa using h
    exact hfound
  · intro h
    rw [(configures_iff ordered).1 h, sectionOf_membersOf]

/-- **What a section holds makes no document fail**: one whose section is
found has a snapshot, of that family and with that hash. -/
theorem exists_snapshot (h : sectionOf o = .ok (family, content, hash)) :
    ∃ s notices, ofObject o = .ok (s, notices) ∧ s.family = family ∧ s.hash = hash := by
  unfold ofObject
  rw [h]
  exact ⟨_, _, rfl, rfl, rfl⟩

/-- **The documents that are accepted** are those that configure a server. The
snapshot is of its family and has the hash; every other document has a fault,
and what the section holds is of no concern to either. -/
theorem ofValue_accepts (document : v.Ordered) :
    (∀ family hash,
      (∃ s notices, ofValue v = .ok (s, notices) ∧ s.family = family ∧ s.hash = hash) ↔
        ∃ content, Configures v family content hash) ∧
      ((∃ fault, ofValue v = .error fault) ↔
        ∀ family content hash, ¬ Configures v family content hash) := by
  by_cases hobject : ∃ o, v = .object o
  · obtain ⟨o, rfl⟩ := hobject
    have hordered : Object.Ascending o := by
      cases document with
      | object ascending _ => exact ascending
    simp only [← sectionOf_eq_ok_iff hordered]
    cases hsection : sectionOf o with
    | error fault => simp [ofValue, ofObject, hsection]
    | ok found =>
      obtain ⟨family, content, hash⟩ := found
      obtain ⟨s, notices, ho, rfl, rfl⟩ := exists_snapshot hsection
      simp [ofValue, ho]
  · have hnot : ∀ family content hash, ¬ Configures v family content hash := by
      rintro family content hash ⟨⟩
      exact hobject ⟨_, rfl⟩
    have hfault : ofValue v = .error (.notObject v.kind) := by
      cases v with
      | object o => exact absurd ⟨o, rfl⟩ hobject
      | _ => rfl
    simp [hfault, hnot]

/-- A subnet list that is a number, and no list, is of no concern. -/
theorem ofValue_accepts_unusable_section :
    let content : Object := [("subnet6", .int 7)]
    let v : Value := .object [("Dhcp6", .object content), ("hash", .string "5C3C90EF")]
    v.Ordered ∧ Configures v .v6 content (some "5C3C90EF") ∧
      ∃ s notices, ofValue v = .ok (s, notices) ∧ s.family = .v6 ∧
        s.hash = some "5C3C90EF" := by
  intro content v
  have hordered : Object.Ascending [("Dhcp6", .object content), ("hash", .string "5C3C90EF")] :=
    ascending_membersOf .v6 content (some "5C3C90EF")
  have hcontent : Value.Ordered (.object content) :=
    .object (List.pairwise_singleton _ _) (List.forall_mem_singleton.2 (.int 7))
  have hdocument : v.Ordered :=
    .object hordered (List.forall_mem_cons.2 ⟨hcontent, List.forall_mem_singleton.2 (.string _)⟩)
  have hconfigures : Configures v .v6 content (some "5C3C90EF") := (configures_iff hordered).2 rfl
  exact ⟨hdocument, hconfigures,
    ((ofValue_accepts hdocument).1 .v6 (some "5C3C90EF")).2 ⟨content, hconfigures⟩⟩

end Snapshot

end KeaGauge.Kea
