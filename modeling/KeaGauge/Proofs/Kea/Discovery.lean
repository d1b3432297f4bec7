import KeaGauge.Proofs.Json.View
import KeaGauge.Proofs.Kea.Section
import Mathlib.Data.List.Basic
import Mathlib.Data.List.Forall2
/-!
# Discovery of subnets

What the subnets of a configuration are and what is reported about it, said
of each entry by itself: an entry that names a subnet is kept with the pools
that its pool list names, any other is left out for one reason (`Treats`). The
entries of a section are those of its own list and then those of each shared
network (`Enumerates`). A snapshot lists what its entries bring, one after the
other (`ofObject_discovers`).
-/

namespace KeaGauge

open Json (Value Object)
open Net (Family Cidr)

/-- Whether a notice says that a subnet entry was left out. -/
def Notice.isOmission : Notice → Bool
  | incompleteSubnet _ | invalidId _ | invalidPrefix _ _ | foreignPrefix _ _ _ => true
  | _ => false

namespace Kea

/-! ## Items -/

/-- **The items under a name**: those of the list there, and none when there
is no such member or it is no list. -/
def ItemsAt (v : Value) (name : String) : List Value → Prop :=
  Json.Found (v.get? name) .list []

theorem itemsAt_iff {v : Value} {name : String} {items : List Value} :
    ItemsAt v name items ↔ Subnet.entriesAt v name = items :=
  Json.found_iff fun _ _ => Value.items?_eq_some_iff

/-- **The entries of a section**: those of its own list, then those of each
shared network in turn. -/
inductive Enumerates (family : Family) (content : Object) : List Value → Prop where
  | mk {own networks : List Value} {shared : List (List Value)}
      (listed : ItemsAt (.object content) (subnetsName family) own)
      (networked : ItemsAt (.object content) "shared-networks" networks)
      (shares : List.Forall₂ (ItemsAt · (subnetsName family)) networks shared) :
      Enumerates family content (own ++ shared.flatten)

theorem enumerates_entries (family : Family) (content : Object) :
    Enumerates family content (Snapshot.entries family content) := by
  have hshared : ∀ networks : List Value, List.Forall₂ (ItemsAt · (subnetsName family)) networks
      (networks.map (Subnet.entriesAt · (subnetsName family))) := fun networks => by
    rw [List.forall₂_map_right_iff, List.forall₂_same]
    exact fun v _ => itemsAt_iff.2 rfl
  rw [Snapshot.entries, List.flatMap_def]
  exact .mk (itemsAt_iff.2 rfl) (itemsAt_iff.2 rfl) (hshared _)

/-! ## Each by itself -/

section Gathering

variable {α β : Type}

/-- **What items bring, one after the other**, each by itself: results, and
notices to report. -/
inductive Gathers (brings : α → List β → List Notice → Prop) :
    List α → List β → List Notice → Prop where
  | nil : Gathers brings [] [] []
  | cons {item : α} {items : List α} {share results : List β} {said notices : List Notice}
      (here : brings item share said) (rest : Gathers brings items results notices) :
      Gathers brings (item :: items) (share ++ results) (said ++ notices)

variable {brings : α → List β → List Notice → Prop}

/-- What items bring is found item by item, when what each of them brings
is. -/
theorem gathers_iff {items : List α} {results : List β} {notices : List Notice}
    {found : α → List β} {said : α → List Notice}
    (h : ∀ item rs ns, brings item rs ns ↔ rs = found item ∧ ns = said item) :
    Gathers brings items results notices ↔
      results = items.flatMap found ∧ notices = items.flatMap said := by
  constructor
  · intro hgathers
    induction hgathers with
    | nil => exact ⟨rfl, rfl⟩
    | cons here _ ih =>
      obtain ⟨rfl, rfl⟩ := (h _ _ _).1 here
      obtain ⟨rfl, rfl⟩ := ih
      exact ⟨rfl, rfl⟩
  · rintro ⟨rfl, rfl⟩
    induction items with
    | nil => exact .nil
    | cons item items ih => exact .cons ((h _ _ _).2 ⟨rfl, rfl⟩) ih

/-- When each item brings one result or one notice of a kind, there are as
many items as results and such notices. -/
theorem Gathers.length_eq {items : List α} {results : List β} {notices : List Notice}
    {p : Notice → Bool} (h : Gathers brings items results notices)
    (hone : ∀ item rs ns, brings item rs ns → rs.length + ns.countP p = 1) :
    items.length = results.length + notices.countP p := by
  induction h with
  | nil => rfl
  | cons here _ ih =>
    have hhere := hone _ _ _ here
    rw [List.length_cons, List.length_append, List.countP_append]
    omega

end Gathering

/-! ## Pools -/

/-- An entry of a pool list names a pool: it is an object whose `pool` is a
text that can be read. -/
def NamesPool (v : Value) (pool : Pool) : Prop :=
  ∃ written, v.get? "pool" = some (.string written) ∧ Pool.ofText? written = some pool

/-- **What an entry of a pool list brings** to the subnet of an id: the pool
it names, or a notice. -/
inductive TreatsPool (id : Nat) (v : Value) : List Pool → List Notice → Prop where
  | kept {pool : Pool} (names : NamesPool v pool) : TreatsPool id v [pool] []
  | leftOut (unnamed : ∀ pool, ¬ NamesPool v pool) : TreatsPool id v [] [.unparsablePool v id]

theorem namesPool_iff {v : Value} {pool : Pool} :
    NamesPool v pool ↔ Subnet.pool? v = some pool := by
  simp only [NamesPool, Subnet.pool?, Option.bind_eq_some_iff, Value.text?_eq_some_iff]
  constructor
  · rintro ⟨written, hget, hpool⟩
    exact ⟨written, ⟨_, hget, rfl⟩, hpool⟩
  · rintro ⟨written, ⟨_, hget, rfl⟩, hpool⟩
    exact ⟨written, hget, hpool⟩

theorem treatsPool_iff {id : Nat} {v : Value} {pools : List Pool} {notices : List Notice} :
    TreatsPool id v pools notices ↔
      pools = (Subnet.pool? v).toList ∧
        notices = if (Subnet.pool? v).isNone then [.unparsablePool v id] else [] := by
  cases hpool : Subnet.pool? v with
  | some pool =>
    constructor
    · rintro (⟨names⟩ | ⟨unnamed⟩)
      · obtain rfl := Option.some.inj (hpool.symm.trans (namesPool_iff.1 names))
        exact ⟨rfl, rfl⟩
      · exact absurd (namesPool_iff.2 hpool) (unnamed pool)
    · rintro ⟨rfl, rfl⟩
      exact .kept (namesPool_iff.2 hpool)
  | none =>
    have hunnamed : ∀ pool, ¬ NamesPool v pool := fun pool h => by
      rw [namesPool_iff, hpool] at h
      exact absurd h (by simp)
    constructor
    · rintro (⟨names⟩ | _)
      · exact absurd names (hunnamed _)
      · exact ⟨rfl, rfl⟩
    · rintro ⟨rfl, rfl⟩
      exact .leftOut hunnamed

/-- The pools of a pool list, and a notice on each entry that names none. -/
theorem gathers_pools_iff {id : Nat} {entries : List Value} {pools : List Pool}
    {notices : List Notice} :
    Gathers (TreatsPool id) entries pools notices ↔
      pools = entries.filterMap Subnet.pool? ∧
        notices = (entries.filter fun v => (Subnet.pool? v).isNone).map (.unparsablePool · id) := by
  have hpools : entries.filterMap Subnet.pool? =
      entries.flatMap fun v => (Subnet.pool? v).toList :=
    List.filterMap_eq_flatMap_toList ..
  have hnotices : (entries.filter fun v => (Subnet.pool? v).isNone).map
      (Notice.unparsablePool · id) = entries.flatMap fun v =>
        if (Subnet.pool? v).isNone then [Notice.unparsablePool v id] else [] := by
    induction entries with
    | nil => rfl
    | cons v rest ih =>
      rw [List.filter_cons, List.flatMap_cons, ← ih (List.filterMap_eq_flatMap_toList ..)]
      split <;> rfl
  rw [hpools, hnotices]
  exact gathers_iff fun _ _ _ => treatsPool_iff

/-- What is reported about pools is no omission of a subnet. -/
theorem countP_isOmission_pools {id : Nat} {entries : List Value} {pools : List Pool}
    {notices : List Notice} (h : Gathers (TreatsPool id) entries pools notices) :
    notices.countP Notice.isOmission = 0 := by
  induction h with
  | nil => rfl
  | cons here _ ih =>
    rw [List.countP_append, ih]
    cases here <;> rfl

/-! ## Entries -/

/-- **An entry names a subnet** of a family: its `id` is an integer of 32 bits
without sign, and its `subnet` a text that is a prefix of the family, blanks
around it allowed. -/
structure Names (family : Family) (entry : Value) (id : Nat) (cidr : Cidr) : Prop where
  hasId : entry.get? "id" = some (.int id)
  bounded : id < 0x100000000
  hasSubnet : ∃ written, entry.get? "subnet" = some (.string written) ∧
    Cidr.ofChars? (Text.trim written.toList) = some cidr
  ofFamily : cidr.family = family

/-- **Why an entry is left out**, and the notice that says so. The first
reason counts. -/
inductive Omits (family : Family) (entry : Value) : Notice → Prop where
  | incomplete (missing : entry.get? "id" = none ∨ entry.get? "subnet" = none) :
      Omits family entry (.incompleteSubnet entry)
  | invalidId {id written : Value} (hasId : entry.get? "id" = some id)
      (hasSubnet : entry.get? "subnet" = some written)
      (invalid : ∀ n : Nat, n < 0x100000000 → id ≠ .int n) : Omits family entry (.invalidId id)
  | invalidPrefix {id : Nat} {written : Value} (hasId : entry.get? "id" = some (.int id))
      (bounded : id < 0x100000000) (hasSubnet : entry.get? "subnet" = some written)
      (invalid : ∀ s cidr, written = .string s → Cidr.ofChars? (Text.trim s.toList) ≠ some cidr) :
      Omits family entry (.invalidPrefix id written)
  | foreign {id : Nat} {written : String} {cidr : Cidr}
      (hasId : entry.get? "id" = some (.int id)) (bounded : id < 0x100000000)
      (hasSubnet : entry.get? "subnet" = some (.string written))
      (named : Cidr.ofChars? (Text.trim written.toList) = some cidr)
      (foreign : cidr.family ≠ family) : Omits family entry (.foreignPrefix id cidr family)

/-- **What an entry brings**: the subnet it names, with the pools of its pool
list and what is to be reported about them, or one notice on why it is left
out. -/
inductive Treats (family : Family) (entry : Value) : List Subnet → List Notice → Prop where
  | kept {id : Nat} {cidr : Cidr} {entries : List Value} {pools : List Pool}
      {notices : List Notice} (names : Names family entry id cidr)
      (listed : ItemsAt entry "pools" entries)
      (gathers : Gathers (TreatsPool id) entries pools notices) :
      Treats family entry [⟨id, cidr, pools⟩] notices
  | leftOut {notice : Notice} (unnamed : ∀ id cidr, ¬ Names family entry id cidr)
      (omits : Omits family entry notice) : Treats family entry [] [notice]

section Entries

variable {family : Family} {entry v : Value} {id : Nat} {cidr : Cidr} {notice : Notice}

theorem id?_eq_some_iff : Subnet.id? v = some id ↔ v = .int id ∧ id < 0x100000000 := by
  simp [Subnet.id?, Option.filter_eq_some_iff, Value.nat?_eq_some_iff]

theorem cidr?_eq_some_iff :
    Subnet.cidr? v = some cidr ↔
      ∃ s, v = .string s ∧ Cidr.ofChars? (Text.trim s.toList) = some cidr := by
  simp only [Subnet.cidr?, Option.bind_eq_some_iff, Value.text?_eq_some_iff]

/-- An entry that names a subnet is read as it. -/
theorem Names.ofEntry_eq (h : Names family entry id cidr) :
    Subnet.ofEntry family entry =
      .ok ⟨id, cidr, (Subnet.entriesAt entry "pools").filterMap Subnet.pool?⟩ := by
  obtain ⟨hasId, bounded, ⟨written, hasSubnet, named⟩, ofFamily⟩ := h
  have hid := id?_eq_some_iff.2 ⟨rfl, bounded⟩
  have hcidr := cidr?_eq_some_iff.2 ⟨written, rfl, named⟩
  simp only [Subnet.ofEntry, hasId, hasSubnet, hid, hcidr, if_pos ofFamily]

/-- An entry that is left out for a reason is not read. -/
theorem Omits.ofEntry_eq (h : Omits family entry notice) :
    Subnet.ofEntry family entry = .error notice := by
  cases h with
  | incomplete missing =>
    rcases missing with missing | missing
    · simp only [Subnet.ofEntry, missing]
    · cases hid : entry.get? "id" <;> simp only [Subnet.ofEntry, missing, hid]
  | @invalidId id written hasId hasSubnet invalid =>
    have hid : Subnet.id? id = none := Option.eq_none_iff_forall_ne_some.2 fun n hn =>
      invalid n (id?_eq_some_iff.1 hn).2 (id?_eq_some_iff.1 hn).1
    simp only [Subnet.ofEntry, hasId, hasSubnet, hid]
  | @invalidPrefix id written hasId bounded hasSubnet invalid =>
    have hid := id?_eq_some_iff.2 ⟨rfl, bounded⟩
    have hcidr : Subnet.cidr? written = none := Option.eq_none_iff_forall_ne_some.2 fun cidr h => by
      obtain ⟨s, hs, named⟩ := cidr?_eq_some_iff.1 h
      exact invalid s cidr hs named
    simp only [Subnet.ofEntry, hasId, hasSubnet, hid, hcidr]
  | foreign hasId bounded hasSubnet named foreign =>
    have hid := id?_eq_some_iff.2 ⟨rfl, bounded⟩
    have hcidr := cidr?_eq_some_iff.2 ⟨_, rfl, named⟩
    simp only [Subnet.ofEntry, hasId, hasSubnet, hid, hcidr, if_neg foreign]

/-- **Every entry** names a subnet or is left out for a reason. -/
theorem names_or_omits (family : Family) (entry : Value) :
    (∃ id cidr, Names family entry id cidr) ∨ ∃ notice, Omits family entry notice := by
  cases hasId : entry.get? "id" with
  | none => exact .inr ⟨_, .incomplete (.inl hasId)⟩
  | some v =>
    cases hasSubnet : entry.get? "subnet" with
    | none => exact .inr ⟨_, .incomplete (.inr hasSubnet)⟩
    | some written =>
      by_cases hid : ∃ n : Nat, n < 0x100000000 ∧ v = .int n
      · obtain ⟨id, bounded, rfl⟩ := hid
        by_cases hcidr : ∃ s cidr, written = .string s ∧
            Cidr.ofChars? (Text.trim s.toList) = some cidr
        · obtain ⟨s, cidr, rfl, named⟩ := hcidr
          by_cases hfamily : cidr.family = family
          · exact .inl ⟨id, cidr, hasId, bounded, ⟨s, hasSubnet, named⟩, hfamily⟩
          · exact .inr ⟨_, .foreign hasId bounded hasSubnet named hfamily⟩
        · exact .inr ⟨_, .invalidPrefix hasId bounded hasSubnet fun s cidr hs named =>
            hcidr ⟨s, cidr, hs, named⟩⟩
      · exact .inr ⟨_, .invalidId hasId hasSubnet fun n bounded hn => hid ⟨n, bounded, hn⟩⟩

/-- The reader brings of an entry what is to be brought of it. -/
theorem treats_iff {subnets : List Subnet} {notices : List Notice} :
    Treats family entry subnets notices ↔
      subnets = (Subnet.ofEntry family entry).toOption.toList ∧
        notices = Subnet.notices family entry := by
  constructor
  · rintro (⟨names, listed, gathers⟩ | ⟨-, omits⟩)
    · obtain rfl := itemsAt_iff.1 listed
      obtain ⟨rfl, rfl⟩ := gathers_pools_iff.1 gathers
      rw [Subnet.notices, names.ofEntry_eq]
      exact ⟨rfl, rfl⟩
    · rw [Subnet.notices, omits.ofEntry_eq]
      exact ⟨rfl, rfl⟩
  · rintro ⟨rfl, rfl⟩
    rcases names_or_omits family entry with ⟨id, cidr, names⟩ | ⟨notice, omits⟩
    · rw [Subnet.notices, names.ofEntry_eq]
      exact .kept names (itemsAt_iff.2 rfl) (gathers_pools_iff.2 ⟨rfl, rfl⟩)
    · have hunnamed : ∀ id cidr, ¬ Names family entry id cidr := fun id cidr names => by
        have h := names.ofEntry_eq.symm.trans omits.ofEntry_eq
        exact absurd h (by simp)
      rw [Subnet.notices, omits.ofEntry_eq]
      exact .leftOut hunnamed omits

/-- An entry brings a subnet or is reported to be left out, never both. -/
theorem Treats.length_eq {subnets : List Subnet} {notices : List Notice}
    (h : Treats family entry subnets notices) :
    subnets.length + notices.countP Notice.isOmission = 1 := by
  cases h with
  | kept _ _ gathers => rw [countP_isOmission_pools gathers, List.length_singleton]
  | leftOut _ omits => cases omits <;> rfl

end Entries

/-! ## Configurations -/

/-- **Discovery is exact and never silent.** The snapshot of a configuration
lists what the entries of its one section bring, and what is reported is what
they have to report, each in the order of the entries. How an entry is treated
is decided by the entry and the family of the section, whatever stands beside
it, and each is either listed or reported to be left out. -/
theorem Snapshot.ofObject_discovers {o : Object} {s : Snapshot} {notices : List Notice}
    (h : Snapshot.ofObject o = .ok (s, notices)) :
    ∃ content entries, Sectioned o s.family content ∧ Enumerates s.family content entries ∧
      Gathers (Treats s.family) entries s.subnets notices ∧
      (∀ entry, ∃! share : List Subnet × List Notice, Treats s.family entry share.1 share.2) ∧
      entries.length = s.subnets.length + notices.countP Notice.isOmission := by
  unfold Snapshot.ofObject at h
  split at h
  · exact absurd h (by simp)
  · next family content hash hsection =>
    obtain ⟨rfl, rfl⟩ := Prod.mk.inj (Except.ok.inj h)
    have hgathers : Gathers (Treats family) (Snapshot.entries family content)
        ((Snapshot.entries family content).filterMap fun e => (Subnet.ofEntry family e).toOption)
        ((Snapshot.entries family content).flatMap (Subnet.notices family)) := by
      rw [List.filterMap_eq_flatMap_toList]
      exact (gathers_iff fun entry _ _ => @treats_iff family entry _ _).2 ⟨rfl, rfl⟩
    refine ⟨content, Snapshot.entries family content, sectioned_of_sectionOf hsection,
      enumerates_entries family content, hgathers, fun entry => ?_,
      hgathers.length_eq fun _ _ _ htreats => htreats.length_eq⟩
    refine ⟨(_, _), treats_iff.2 ⟨rfl, rfl⟩, fun share htreats => ?_⟩
    obtain ⟨hsubnets, hnotices⟩ := treats_iff.1 htreats
    exact Prod.ext hsubnets hnotices

/-- A configuration with two subnets among three entries that are left out,
and a pool that cannot be read. -/
def mixedDocument : Object :=
  [("Dhcp4", .object
    [("shared-networks", .list
        [.object [("subnet4", .int 7)],
          .object [("subnet4", .list
            [.object [("id", .int 2), ("subnet", .string "2001:db8::/32")],
              .object [("id", .int 3), ("subnet", .string "10.0.0.1/8")]])]]),
      ("subnet4", .list
        [.object [("id", .int 1),
            ("pools", .list [.object [("pool", .string "192.0.2.10 - 192.0.2.20")],
              .object [("pool", .string "192.0.2.10")]]),
            ("subnet", .string " 192.0.2.1/24 ")],
          .object [("subnet", .string "10.0.0.0/8")],
          .object [("id", .int 0x100000000), ("subnet", .string "10.0.0.0/8")]])]),
    ("hash", .string "0815")]

/-- Discovery in a configuration that mixes what can be used with what
cannot. -/
theorem Snapshot.ofObject_discovers_mixed :
    ∃ s notices, Snapshot.ofObject mixedDocument = .ok (s, notices) ∧
      (s.subnets.map (·.assignment.text) = ["subnet[1] 192.0.2.1/24", "subnet[3] 10.0.0.1/8"] ∧
        s.subnets.map (·.pools.length) = [1, 0] ∧ notices.length = 4) ∧
      ∃ content entries, Sectioned mixedDocument s.family content ∧
        Enumerates s.family content entries ∧
        Gathers (Treats s.family) entries s.subnets notices ∧
        (∀ entry, ∃! share : List Subnet × List Notice, Treats s.family entry share.1 share.2) ∧
        entries.length = s.subnets.length + notices.countP Notice.isOmission :=
  ⟨_, _, rfl, ⟨rfl, rfl, rfl⟩, ofObject_discovers rfl⟩

end Kea

end KeaGauge
