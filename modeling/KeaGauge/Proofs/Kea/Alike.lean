import KeaGauge.Proofs.Kea.Discovery
import KeaGauge.Proofs.Kea.Snapshot
/-!
# Documents that assign alike

A configuration document assigns ids to prefixes, by the entries of its
section that name both (`Assigns`). Two documents of one family that assign
the same pairs are alike (`AssignAlike`), whatever the order of their entries,
how often an entry stands there and in which list, and whatever else the
documents hold. Their snapshots have the same pairs (`assignAlike_iff`), and
of snapshots with the same pairs nothing else is compared
(`Snapshot.drift?_congr`).
-/

namespace KeaGauge.Kea

open Json (Value Object)
open Net (Family Cidr)

/-- **A document assigns** an id to a prefix: an entry of its section, there
or in a shared network, names both. -/
def Assigns (o : Object) (family : Family) (a : Assignment) : Prop :=
  ∃ content entries, Sectioned o family content ∧ Enumerates family content entries ∧
    ∃ entry ∈ entries, Names family entry a.id a.cidr

/-- A document of which there is a snapshot. -/
def Accepted (o : Object) : Prop := ∃ s notices, Snapshot.ofObject o = .ok (s, notices)

/-- **Documents that assign alike**: both are accepted, have the section of
the same family, and assign the same ids to the same prefixes. -/
structure AssignAlike (o o' : Object) : Prop where
  accepted : Accepted o
  accepted' : Accepted o'
  version : ∀ family, (∃ content, Sectioned o family content) ↔
    ∃ content, Sectioned o' family content
  pairs : ∀ family a, Assigns o family a ↔ Assigns o' family a

/-! ## The pairs of a snapshot -/

section Pairs

variable {o o' : Object} {s s' : Snapshot} {notices notices' : List Notice} {family : Family}
variable {a : Assignment}

/-- A section has its entries in one way. -/
theorem enumerates_iff {content : Object} {entries : List Value} :
    Enumerates family content entries ↔ entries = Snapshot.entries family content := by
  constructor
  · rintro ⟨listed, networked, shares⟩
    obtain rfl := itemsAt_iff.1 listed
    obtain rfl := itemsAt_iff.1 networked
    have hshared := shares.imp fun _ _ h => itemsAt_iff.1 h
    rw [← List.forall₂_map_left_iff, List.forall₂_eq_eq_eq] at hshared
    rw [Snapshot.entries, List.flatMap_def, hshared]
  · rintro rfl
    exact enumerates_entries family content

/-- What an entry names is what is read of it. -/
theorem names_iff {entry : Value} :
    Names family entry a.id a.cidr ↔
      ∃ subnet, (Subnet.ofEntry family entry).toOption = some subnet ∧ subnet.assignment = a := by
  constructor
  · intro names
    exact ⟨_, by rw [names.ofEntry_eq]; rfl, rfl⟩
  · rintro ⟨subnet, hread, rfl⟩
    rcases names_or_omits family entry with ⟨id, cidr, names⟩ | ⟨notice, omits⟩
    · rw [names.ofEntry_eq] at hread
      obtain rfl := Option.some.inj hread
      exact names
    · rw [omits.ofEntry_eq] at hread
      exact absurd hread (by simp [Except.toOption])

/-- The family of a snapshot is that of the one section. -/
theorem sectioned_iff (h : Snapshot.ofObject o = .ok (s, notices)) :
    (∃ content, Sectioned o family content) ↔ family = s.family := by
  obtain ⟨content, -, hsection, -⟩ := Snapshot.ofObject_discovers h
  constructor
  · rintro ⟨other, hother⟩
    by_contra hne
    have hnone := hsection.only family hne
    rw [hother.found] at hnone
    exact absurd hnone (by simp)
  · rintro rfl
    exact ⟨content, hsection⟩

/-- **A snapshot lists just the pairs** that its document assigns. -/
theorem assigns_iff (h : Snapshot.ofObject o = .ok (s, notices)) :
    Assigns o family a ↔ family = s.family ∧ a ∈ s.pairs := by
  have hsubnets : ∀ content, Sectioned o s.family content →
      s.subnets = (Snapshot.entries s.family content).filterMap
        fun e => (Subnet.ofEntry s.family e).toOption := by
    intro content hcontent
    obtain ⟨found, entries, hfound, henumerates, hgathers, -⟩ := Snapshot.ofObject_discovers h
    obtain rfl := enumerates_iff.1 henumerates
    have hsame := hfound.found.symm.trans hcontent.found
    obtain rfl : found = content := by simpa using hsame
    rw [List.filterMap_eq_flatMap_toList]
    exact ((gathers_iff fun entry _ _ => @treats_iff s.family entry _ _).1 hgathers).1
  have hmem : ∀ content, Sectioned o s.family content →
      (a ∈ s.pairs ↔ ∃ entry ∈ Snapshot.entries s.family content,
        Names s.family entry a.id a.cidr) := by
    intro content hcontent
    simp only [Snapshot.pairs, List.mem_toFinset, List.mem_map, hsubnets content hcontent,
      List.mem_filterMap, names_iff]
    constructor
    · rintro ⟨subnet, ⟨entry, hentry, hread⟩, hsubnet⟩
      exact ⟨entry, hentry, subnet, hread, hsubnet⟩
    · rintro ⟨entry, hentry, subnet, hread, hsubnet⟩
      exact ⟨subnet, ⟨entry, hentry, hread⟩, hsubnet⟩
  constructor
  · rintro ⟨content, entries, hsection, henumerates, hnamed⟩
    obtain rfl := (sectioned_iff h).1 ⟨content, hsection⟩
    obtain rfl := enumerates_iff.1 henumerates
    exact ⟨rfl, (hmem content hsection).2 hnamed⟩
  · rintro ⟨rfl, hpairs⟩
    obtain ⟨content, hsection⟩ := (sectioned_iff h).2 rfl
    exact ⟨content, _, hsection, enumerates_entries s.family content,
      (hmem content hsection).1 hpairs⟩

/-- **Documents assign alike** just when their snapshots are of one family
and have the same pairs. -/
theorem assignAlike_iff (h : Snapshot.ofObject o = .ok (s, notices))
    (h' : Snapshot.ofObject o' = .ok (s', notices')) :
    AssignAlike o o' ↔ s.family = s'.family ∧ s.pairs = s'.pairs := by
  constructor
  · intro halike
    have hfamily : s.family = s'.family :=
      (sectioned_iff h').1 ((halike.version s.family).1 ((sectioned_iff h).2 rfl))
    refine ⟨hfamily, Finset.ext fun a => ?_⟩
    have hpairs := halike.pairs s.family a
    rw [assigns_iff h, assigns_iff h'] at hpairs
    simpa [hfamily] using hpairs
  · rintro ⟨hfamily, hpairs⟩
    refine ⟨⟨s, notices, h⟩, ⟨s', notices', h'⟩, fun family => ?_, fun family a => ?_⟩
    · rw [sectioned_iff h, sectioned_iff h', hfamily]
    · rw [assigns_iff h, assigns_iff h', hfamily, hpairs]

end Pairs

/-! ## What is compared of a snapshot -/

namespace Snapshot

variable {before after after' : Snapshot}

/-- **Only the pairs of a second snapshot are compared.** -/
theorem drift?_congr (h : after.pairs = after'.pairs) :
    before.drift? after = before.drift? after' := by
  rw [drift?, drift?, assignments_eq_iff.2 h]

theorem isEmpty_congr (h : after.pairs = after'.pairs) : after.isEmpty = after'.isEmpty := by
  have hnil : after.subnets = [] ↔ after'.subnets = [] := by
    rw [← pairs_eq_empty_iff, ← pairs_eq_empty_iff, h]
  rw [Bool.eq_iff_iff]
  simpa [isEmpty] using hnil

end Snapshot

end KeaGauge.Kea
