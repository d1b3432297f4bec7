import KeaGauge.Proofs.Carbon.Payload
import KeaGauge.Proofs.Net.Lookalike
/-!
# Paths apart

A path ends in its key, and the key ends at the last point. Before it stands
the escaped prefix, which ends in its length. What is before the length is the
address with one character for both points and colons, so two prefixes share
their paths just when they have one length and their addresses are written
alike (`escape_text_eq_iff`). That happens only to an IPv4-mapped address and
its namesake: but for these, no two prefixes and no two keys share a path
(`PathScheme.paths_apart`).
-/

namespace KeaGauge.Carbon

open Net (Address Cidr)
open Net.Address (colons IsNamesake)

/-! ## Escaped addresses -/

/-- Points and colons are escaped alike. -/
theorem map_escapeChar_colons (cs : List Char) :
    (colons cs).map escapeChar = cs.map escapeChar := by
  rw [colons, List.map_map]
  refine List.map_congr_left fun c _ => ?_
  by_cases hc : c = '.' <;> simp [escapeChar, hc]

/-- **An escaped address is known up to points and colons**, as what stands for
them is nothing that an address is written with. -/
theorem map_escapeChar_eq_iff {a b : Address} :
    a.chars.map escapeChar = b.chars.map escapeChar ↔ colons a.chars = colons b.chars := by
  -- nothing else is escaped in an address, so colons can be put back
  have hback : ∀ a : Address,
      (a.chars.map escapeChar).map (fun c => if c = '_' then ':' else c) = colons a.chars := by
    intro a
    rw [List.map_map, colons]
    refine List.map_congr_left fun c hc => ?_
    rcases Address.mem_chars hc with rfl | rfl | hdigit
    · rfl
    · rfl
    · have hother : ∀ d, Text.isDigitIn 16 d = false → c ≠ d := fun d hd heq =>
        absurd (heq ▸ hdigit) (by simp [hd])
      have hpoint : c ≠ '.' := hother '.' rfl
      have hcolon : c ≠ ':' := hother ':' rfl
      have hslash : c ≠ '/' := hother '/' rfl
      have hlow : c ≠ '_' := hother '_' rfl
      simp [escapeChar, hpoint, hcolon, hslash, hlow]
  constructor
  · intro h
    rw [← hback a, h, hback b]
  · intro h
    rw [← map_escapeChar_colons, h, map_escapeChar_colons]

/-! ## Escaped prefixes -/

/-- Digits are not escaped. -/
theorem map_escapeChar_toDigits (n : Nat) :
    (Nat.toDigits 10 n).map escapeChar = Nat.toDigits 10 n := by
  calc (Nat.toDigits 10 n).map escapeChar = (Nat.toDigits 10 n).map id := by
        refine List.map_congr_left fun c hc => ?_
        have hdigit := Text.isDigitIn_of_mem_toDigits (by decide) (by decide) hc
        have hother : ¬ (c = '.' ∨ c = ':' ∨ c = '/') := by
          rintro (rfl | rfl | rfl) <;> exact absurd hdigit (by decide)
        exact if_neg hother
    _ = Nat.toDigits 10 n := List.map_id _

theorem toList_escape_text (c : Cidr) :
    (escape c.text).toList =
      c.address.chars.map escapeChar ++ '_' :: Nat.toDigits 10 c.length := by
  have hslash : escapeChar '/' = '_' := rfl
  simp [escape, Cidr.text, Cidr.chars, hslash, map_escapeChar_toDigits]

/-- **Two prefixes are escaped alike** just when they have one length and their
addresses are written alike. -/
theorem escape_text_eq_iff {c d : Cidr} :
    escape c.text = escape d.text ↔
      c.length = d.length ∧ colons c.address.chars = colons d.address.chars := by
  have hlow : ∀ n, '_' ∉ Nat.toDigits 10 n := fun _ =>
    Text.not_mem_toDigits (by decide) (by decide) rfl
  rw [← String.toList_inj, toList_escape_text, toList_escape_text,
    Text.append_cons_inj_of_not_mem (hlow _) (hlow _), map_escapeChar_eq_iff,
    Text.toDigits_inj (by decide) (by decide), and_comm]

/-- **Two prefixes that share their paths**: they have one length, and the
address of one is the namesake of the other's. -/
structure Lookalike (c d : Cidr) : Prop where
  length_eq : c.length = d.length
  isNamesake : IsNamesake c.address d.address ∨ IsNamesake d.address c.address

variable {c d : Cidr}

/-- Lookalikes are of one family, and just one of them is IPv4-mapped. -/
theorem Lookalike.apart (h : Lookalike c d) :
    c.family = .v6 ∧ d.family = .v6 ∧ Xor c.address.IsMapped d.address.IsMapped := by
  have hsix : ∀ {a b : Address}, IsNamesake a b →
      a.family = .v6 ∧ b.family = .v6 ∧ a.IsMapped ∧ ¬ b.IsMapped := by
    rintro a b ⟨hmapped, -, rfl⟩
    exact ⟨hmapped.1, rfl, hmapped, a.not_isMapped_namesake⟩
  rcases h.isNamesake with h | h
  · obtain ⟨hc, hd, hapart⟩ := hsix h
    exact ⟨hc, hd, .inl hapart⟩
  · obtain ⟨hd, hc, hapart⟩ := hsix h
    exact ⟨hc, hd, .inr hapart⟩

theorem escape_text_eq_iff_lookalike :
    escape c.text = escape d.text ↔ c = d ∨ Lookalike c d := by
  have heq : c = d ↔ c.length = d.length ∧ c.address = d.address := by
    constructor
    · rintro rfl
      exact ⟨rfl, rfl⟩
    · cases c
      cases d
      rintro ⟨rfl, rfl⟩
      rfl
  have hlookalike : Lookalike c d ↔ c.length = d.length ∧
      (IsNamesake c.address d.address ∨ IsNamesake d.address c.address) :=
    ⟨fun h => ⟨h.1, h.2⟩, fun h => ⟨h.1, h.2⟩⟩
  rw [escape_text_eq_iff, Address.colons_eq_iff, heq, hlookalike, and_or_left]

/-! ## Paths -/

theorem point_not_mem_key (k : MetricKey) : '.' ∉ k.text.toList := by
  cases k <;> decide

theorem text_key_inj {k l : MetricKey} : k.text.toList = l.text.toList ↔ k = l := by
  cases k <;> cases l <;> decide

/-- Behind a common front, a prefix and a key. -/
theorem front_append_inj {front : List Char} {k l : MetricKey} :
    front ++ (escape c.text).toList ++ '.' :: k.text.toList =
        front ++ (escape d.text).toList ++ '.' :: l.text.toList ↔
      k = l ∧ (c = d ∨ Lookalike c d) := by
  rw [Text.append_cons_inj_of_not_mem (point_not_mem_key k) (point_not_mem_key l),
    List.append_right_inj, String.toList_inj, text_key_inj, escape_text_eq_iff_lookalike, and_comm]

namespace PathScheme

variable (s : PathScheme)

theorem toList_subnetPath (c : Cidr) (k : MetricKey) :
    (s.subnetPath c k).toList =
      (s.root ++ ".dhcp.subnets.").toList ++ (escape c.text).toList ++ '.' :: k.text.toList := by
  simp [subnetPath, String.intercalate_cons_cons]

theorem toList_pathUnder (server : String) (c : Cidr) (k : MetricKey) :
    (s.pathUnder server c k).toList =
      (s.root ++ ".dhcp.servers." ++ server ++ ".subnets.").toList ++ (escape c.text).toList ++
        '.' :: k.text.toList := by
  simp [pathUnder, String.intercalate_cons_cons]

theorem subnetPath_eq_iff {k l : MetricKey} :
    s.subnetPath c k = s.subnetPath d l ↔ k = l ∧ (c = d ∨ Lookalike c d) := by
  rw [← String.toList_inj, toList_subnetPath, toList_subnetPath, front_append_inj]

theorem pathUnder_eq_iff {server : String} {k l : MetricKey} :
    s.pathUnder server c k = s.pathUnder server d l ↔ k = l ∧ (c = d ∨ Lookalike c d) := by
  rw [← String.toList_inj, toList_pathUnder, toList_pathUnder, front_append_inj]

/-- **No two prefixes and no two keys share a path**, be it under the subnet or
under the server, save a prefix with an IPv4-mapped address and the one of its
length with the namesake; and these share all of them. -/
theorem paths_apart (c d : Cidr) (k l : MetricKey) :
    (s.subnetPath c k = s.subnetPath d l ↔ k = l ∧ (c = d ∨ Lookalike c d)) ∧
      (s.serverPath? c k = s.serverPath? d l ↔
        s.server = none ∨ k = l ∧ (c = d ∨ Lookalike c d)) ∧
      (Lookalike c d → c.family = d.family ∧ c.length = d.length ∧
        c.family = .v6 ∧ Xor c.address.IsMapped d.address.IsMapped) := by
  refine ⟨s.subnetPath_eq_iff, ?_, fun h => ?_⟩
  · rw [serverPath?, serverPath?]
    cases s.server with
    | none => simp
    | some server => simp [pathUnder_eq_iff]
  · obtain ⟨hc, hd, hxor⟩ := h.apart
    exact ⟨hc.trans hd.symm, h.length_eq, hc, hxor⟩

end PathScheme

/-- The prefix of the IPv4-mapped address `::ffff:192.0.2.1` and that of its
namesake `::ffff:192:0:2:1` share a path. -/
example :
    let scheme := PathScheme.ofRoot "nav"
    let mapped : Cidr := ⟨.ofNat .v6 0xffffc0000201, 96, by decide⟩
    let namesake : Cidr := ⟨.ofNat .v6 0xffff0192000000020001, 96, by decide⟩
    mapped ≠ namesake ∧
      scheme.subnetPath mapped .declined = "nav.dhcp.subnets.__ffff_192_0_2_1_96.declined" ∧
      scheme.subnetPath namesake .declined = "nav.dhcp.subnets.__ffff_192_0_2_1_96.declined" := by
  decide +kernel

end KeaGauge.Carbon
