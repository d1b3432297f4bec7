import KeaGauge.Proofs.Net.Address
/-!
# Addresses that are written alike

With colons for its points, the text of an IPv4 address has too few groups for
an IPv6 address, and that of an IPv6 address is read as this very address,
unless it is IPv4-mapped. An IPv4-mapped address has points, and with colons
for them it is read as another address, its namesake, whose last four groups
have the digits of the four octets. So texts with colons for points tell all
addresses apart, save an IPv4-mapped address and its namesake
(`colons_eq_iff`).
-/

namespace KeaGauge.Net.Address

open Text (isDigitIn)

/-- An address is IPv4-mapped: it is of IPv6, in the block that holds the IPv4
addresses. -/
def IsMapped (a : Address) : Prop := a.family = .v6 ∧ isMapped a.value = true

/-- The group that has the digits of an octet. -/
def groupOf (octet : Nat) : Nat := Text.ofDigits 16 (Nat.toDigits 10 octet)

/-- The groups that have the digits of the last four octets of a number. -/
def octetGroups (n : Nat) : List Nat := (split 256 4 n).map groupOf

/-- **The namesake of an IPv4-mapped address**: the mark of the block, with
zeros before it, and behind it the four octets, digit by digit, as groups. -/
def namesake (a : Address) : Address :=
  .ofNat .v6 (join 65536 ([0, 0, 0, 0xFFFF] ++ octetGroups a.value))

/-- An address is the namesake of an IPv4-mapped one. Where the octets are all
zeros, there is none: so many groups of zeros would not be written. -/
structure IsNamesake (a b : Address) : Prop where
  mapped : a.IsMapped
  nonzero : a.value % 0x100000000 ≠ 0
  eq : b = a.namesake

/-- A text with colons for its points. -/
def colons (cs : List Char) : List Char := cs.map fun c => if c = '.' then ':' else c

/-! ## Octets as groups -/

/-- **An octet and its group are written alike.** -/
theorem groupOf_spec {octet : Nat} (h : octet < 256) :
    Nat.toDigits 16 (groupOf octet) = Nat.toDigits 10 octet ∧ groupOf octet < 65536 ∧
      (groupOf octet = 0 ↔ octet = 0) := by
  have hall : ∀ octet < 256, Nat.toDigits 16 (groupOf octet) = Nat.toDigits 10 octet ∧
      groupOf octet < 65536 ∧ (groupOf octet = 0 ↔ octet = 0) := by decide +kernel
  exact hall octet h

theorem length_octetGroups (n : Nat) : (octetGroups n).length = 4 := by
  rw [octetGroups, List.length_map, length_split]

theorem lt_of_mem_octetGroups {n part : Nat} (h : part ∈ octetGroups n) : part < 65536 := by
  obtain ⟨octet, hoctet, rfl⟩ := List.mem_map.1 h
  exact (groupOf_spec (lt_of_mem_split (by decide) hoctet)).2.1

/-! ## Points as colons -/

theorem colons_append (cs ds : List Char) : colons (cs ++ ds) = colons cs ++ colons ds :=
  List.map_append

/-- Without points a text stays as it is. -/
theorem colons_eq_self {cs : List Char} (h : '.' ∉ cs) : colons cs = cs := by
  calc colons cs = cs.map id := List.map_congr_left fun c hc =>
        if_neg fun heq : c = '.' => h (heq ▸ hc)
    _ = cs := List.map_id cs

/-- Without colons a text is known from what it is with colons for its
points. -/
theorem eq_of_colons_eq {cs ds : List Char} (hc : ':' ∉ cs) (hd : ':' ∉ ds)
    (h : colons cs = colons ds) : cs = ds := by
  have hback : ∀ es : List Char, ':' ∉ es →
      (colons es).map (fun c => if c = ':' then '.' else c) = es := by
    intro es hes
    rw [colons, List.map_map]
    calc es.map _ = es.map id := List.map_congr_left fun c hmem => by
          have hne : c ≠ ':' := fun heq => hes (heq ▸ hmem)
          by_cases hpoint : c = '.' <;> simp [hpoint, hne]
      _ = es := List.map_id es
  rw [← hback cs hc, h, hback ds hd]

theorem colon_not_mem_dottedChars (n : Nat) : ':' ∉ dottedChars n := fun hmem =>
  absurd (mem_dottedChars hmem) (by decide)

/-- A dotted form with colons for its points is four groups. -/
theorem colons_dottedChars (n : Nat) :
    colons (dottedChars n) = groupChars (octetGroups n) := by
  have hlt : ∀ part ∈ split 256 4 n, part < 256 := fun part => lt_of_mem_split (by decide)
  obtain ⟨w, x, y, z, hparts⟩ : ∃ w x y z, split 256 4 n = [w, x, y, z] := ⟨_, _, _, _, rfl⟩
  rw [hparts] at hlt
  simp only [List.forall_mem_cons] at hlt
  obtain ⟨hw, hx, hy, hz, -⟩ := hlt
  have hdigits : ∀ k, colons (Nat.toDigits 10 k) = Nat.toDigits 10 k := fun k =>
    colons_eq_self (Text.not_mem_toDigits (by decide) (by decide) rfl)
  have hpoint : ∀ cs, colons ('.' :: cs) = ':' :: colons cs := fun _ => rfl
  simp [dottedChars, groupChars, octetGroups, hparts, List.intercalate, List.intersperse,
    colons_append, hpoint, hdigits, (groupOf_spec hw).1, (groupOf_spec hx).1,
    (groupOf_spec hy).1, (groupOf_spec hz).1]

/-! ## Three kinds of addresses -/

/-- The groups behind the double colon of an IPv4-mapped address with colons
for its points. -/
def mappedGroups (a : Address) : List Nat := 0xFFFF :: octetGroups a.value

variable {a b : Address}

theorem colons_four (ha : a.family = .v4) :
    colons a.chars = groupChars (octetGroups a.value) := by
  simp only [chars, ha]
  exact colons_dottedChars a.value

theorem colons_mapped (ha : a.IsMapped) :
    colons a.chars = ':' :: ':' :: groupChars a.mappedGroups := by
  have hsplit : octetGroups (a.value % 0x100000000) = octetGroups a.value :=
    congrArg (List.map groupOf) (split_mod 256 4 a.value)
  obtain ⟨next, parts, hgroups⟩ : ∃ next parts, octetGroups a.value = next :: parts :=
    ⟨_, _, rfl⟩
  have hmark : colons [':', ':', 'f', 'f', 'f', 'f', ':'] =
      ':' :: ':' :: (Nat.toDigits 16 0xFFFF ++ [':']) := rfl
  simp only [chars, ha.1, ha.2, if_true, colons_append, colons_dottedChars, hsplit, mappedGroups,
    hgroups, groupChars_cons_cons, hmark]
  simp

theorem colons_plain (ha : a.family = .v6) (hplain : ¬ a.IsMapped) : colons a.chars = a.chars := by
  have hunmapped : ¬ isMapped a.value = true := fun h => hplain ⟨ha, h⟩
  refine colons_eq_self fun hmem => ?_
  simp only [chars, ha, if_neg hunmapped] at hmem
  exact absurd (mem_sixChars hmem) (by decide)

/-! ## What an IPv6 address they are read as -/

/-- **An IPv4 address has too few groups.** -/
theorem six?_colons_four (ha : a.family = .v4) : six? alone (colons a.chars) = none := by
  have hread : groups alone 8 true (groupChars (octetGroups a.value) ++ []) =
      (octetGroups a.value, false, []) :=
    groups_groupChars (fun _ => lt_of_mem_octetGroups) (by rw [length_octetGroups]; decide)
      endsGroups_nil
  rw [List.append_nil] at hread
  rw [colons_four ha]
  simp [six?, hread, length_octetGroups]

/-- **An IPv4-mapped address is read as its namesake.** -/
theorem six?_colons_mapped (ha : a.IsMapped) :
    six? alone (colons a.chars) = some (a.namesake, []) := by
  have hlength : a.mappedGroups.length = 5 := by
    rw [mappedGroups, List.length_cons, length_octetGroups]
  have hlt : ∀ part ∈ a.mappedGroups, part < 65536 :=
    List.forall_mem_cons.2 ⟨by decide, fun _ => lt_of_mem_octetGroups⟩
  have hnone : ∀ part ∈ ([] : List Nat), part < 65536 := fun _ h => absurd h List.not_mem_nil
  -- no group before the double colon and five behind it leave three out
  have hread := six?_gap (g := alone) hnone hlt (by rw [hlength]; decide) endsGroups_nil
  rw [colons_mapped ha]
  simpa [hlength, mappedGroups, namesake, groupChars, length_octetGroups] using hread

/-- **Any other IPv6 address is read as itself.** -/
theorem six?_colons_plain (ha : a.family = .v6) (hplain : ¬ a.IsMapped) :
    six? alone (colons a.chars) = some (a, []) := by
  have hread : six? alone (a.chars ++ []) = some (a, []) := six?_chars ha endsGroups_nil
  rw [List.append_nil] at hread
  rw [colons_plain ha hplain, hread]

/-! ## The namesake -/

/-- The groups of a namesake are those that it is made of. -/
theorem split_namesake (a : Address) :
    split 65536 8 a.namesake.value = [0, 0, 0, 0xFFFF] ++ octetGroups a.value := by
  have hlt : ∀ part ∈ [0, 0, 0, 0xFFFF] ++ octetGroups a.value, part < 65536 :=
    List.forall_mem_append.2 ⟨by decide, fun _ => lt_of_mem_octetGroups⟩
  have hlength : ([0, 0, 0, 0xFFFF] ++ octetGroups a.value).length = 8 := by
    rw [List.length_append, length_octetGroups, List.length_cons]
    rfl
  have hvalue : a.namesake.value =
      join 65536 ([0, 0, 0, 0xFFFF] ++ octetGroups a.value) % 65536 ^ 8 :=
    BitVec.toNat_ofNat _ _
  have hjoin := split_join hlt
  rw [hlength] at hjoin
  rw [hvalue, split_mod, hjoin]

/-- A namesake is not IPv4-mapped itself. -/
theorem not_isMapped_namesake (a : Address) : ¬ a.namesake.IsMapped := by
  rintro ⟨-, hmapped⟩
  obtain ⟨w, x, y, z, hgroups⟩ : ∃ w x y z, octetGroups a.value = [w, x, y, z] :=
    ⟨_, _, _, _, rfl⟩
  have hvalue : join 65536 ([0, 0, 0, 0xFFFF] ++ octetGroups a.value) = a.namesake.value := by
    rw [← split_namesake, join_split]
    exact Nat.mod_eq_of_lt a.namesake.value_lt
  -- its mark stands higher by two groups than that of the block
  simp only [hgroups, List.cons_append, List.nil_append, join, List.foldl_cons,
    List.foldl_nil] at hvalue
  simp only [isMapped, decide_eq_true_eq] at hmapped
  omega

/-- The zeros in front of the mark are the first longest run of zeros, unless
there is nothing but zeros behind it. -/
theorem longestZeros_marked {w x y z : Nat} (h : ¬ (w = 0 ∧ x = 0 ∧ y = 0 ∧ z = 0)) :
    longestZeros [0, 0, 0, 0xFFFF, w, x, y, z] = (0, 3) := by
  by_cases hw : w = 0 <;> by_cases hx : x = 0 <;> by_cases hy : y = 0 <;> by_cases hz : z = 0 <;>
    simp_all [longestZeros, zerosAt, List.range, List.range.loop]

theorem octetGroups_eq_zeros_iff (n : Nat) :
    octetGroups n = [0, 0, 0, 0] ↔ n % 0x100000000 = 0 := by
  have hjoin : join 256 (split 256 4 n) = n % 0x100000000 := join_split 256 4 n
  have hlt : ∀ part ∈ split 256 4 n, part < 256 := fun part => lt_of_mem_split (by decide)
  obtain ⟨w, x, y, z, hparts⟩ : ∃ w x y z, split 256 4 n = [w, x, y, z] := ⟨_, _, _, _, rfl⟩
  rw [hparts] at hjoin hlt
  simp only [List.forall_mem_cons] at hlt
  obtain ⟨hw, hx, hy, hz, -⟩ := hlt
  simp only [join, List.foldl_cons, List.foldl_nil] at hjoin
  simp only [octetGroups, hparts, List.map_cons, List.map_nil, List.cons.injEq, and_true,
    (groupOf_spec hw).2.2, (groupOf_spec hx).2.2, (groupOf_spec hy).2.2, (groupOf_spec hz).2.2]
  omega

/-- **The namesake is written like the address**, unless all its octets are
zeros. -/
theorem colons_eq_chars_namesake_iff (ha : a.IsMapped) :
    colons a.chars = a.namesake.chars ↔ a.value % 0x100000000 ≠ 0 := by
  have hchars : a.namesake.chars = sixChars ([0, 0, 0, 0xFFFF] ++ octetGroups a.value) := by
    have hplain : ¬ isMapped a.namesake.value = true := fun h =>
      a.not_isMapped_namesake ⟨rfl, h⟩
    rw [← split_namesake]
    exact if_neg hplain
  rw [colons_mapped ha, hchars, mappedGroups, ne_eq, ← octetGroups_eq_zeros_iff]
  obtain ⟨w, x, y, z, hgroups⟩ : ∃ w x y z, octetGroups a.value = [w, x, y, z] :=
    ⟨_, _, _, _, rfl⟩
  rw [hgroups]
  by_cases hzeros : w = 0 ∧ x = 0 ∧ y = 0 ∧ z = 0
  · obtain ⟨rfl, rfl, rfl, rfl⟩ := hzeros
    decide
  · have hwritten : sixChars [0, 0, 0, 0xFFFF, w, x, y, z] =
        ':' :: ':' :: groupChars [0xFFFF, w, x, y, z] := by
      simp [sixChars, longestZeros_marked hzeros, groupChars]
    simp [hwritten, hzeros]

/-! ## Alike -/

/-- Two IPv4 addresses are told apart. -/
theorem eq_of_colons_four (ha : a.family = .v4) (hb : b.family = .v4)
    (h : colons a.chars = colons b.chars) : a = b := by
  have hchars : ∀ {c : Address}, c.family = .v4 → ':' ∉ c.chars := by
    intro c hc hmem
    simp only [chars, hc] at hmem
    exact colon_not_mem_dottedChars _ hmem
  exact chars_inj (eq_of_colons_eq (hchars ha) (hchars hb) h)

/-- Two IPv4-mapped addresses are told apart. -/
theorem eq_of_colons_mapped (ha : a.IsMapped) (hb : b.IsMapped)
    (h : colons a.chars = colons b.chars) : a = b := by
  refine chars_inj ?_
  simp only [chars, ha.1, ha.2, hb.1, hb.2, if_true, colons_append, List.append_right_inj] at h ⊢
  exact eq_of_colons_eq (colon_not_mem_dottedChars _) (colon_not_mem_dottedChars _) h

/-- An IPv4-mapped address is written like no other IPv6 address but its
namesake. -/
theorem isNamesake_of_colons (ha : a.IsMapped) (hb : b.family = .v6) (hplain : ¬ b.IsMapped)
    (h : colons a.chars = colons b.chars) : IsNamesake a b := by
  have hread := six?_colons_mapped ha
  rw [h, six?_colons_plain hb hplain] at hread
  obtain rfl : b = a.namesake := (Prod.mk.inj (Option.some.inj hread)).1
  rw [colons_plain hb hplain] at h
  exact ⟨ha, (colons_eq_chars_namesake_iff ha).1 h, rfl⟩

theorem IsNamesake.colons_eq (h : IsNamesake a b) : colons a.chars = colons b.chars := by
  obtain ⟨hmapped, hnonzero, rfl⟩ := h
  rw [colons_plain rfl a.not_isMapped_namesake]
  exact (colons_eq_chars_namesake_iff hmapped).2 hnonzero

/-- Addresses of different families are told apart: one of the texts is an
IPv6 address. -/
theorem family_eq_of_colons (h : colons a.chars = colons b.chars) : a.family = b.family := by
  have hread : ∀ c : Address, (six? alone (colons c.chars)).isSome ↔ c.family = .v6 := by
    intro c
    cases hc : c.family with
    | v4 => simp [six?_colons_four hc]
    | v6 =>
      by_cases hmapped : c.IsMapped
      · simp [six?_colons_mapped hmapped]
      · simp [six?_colons_plain hc hmapped]
  have hboth : a.family = .v6 ↔ b.family = .v6 := by rw [← hread a, ← hread b, h]
  cases ha : a.family <;> cases hb : b.family <;> simp_all

/-- **Texts with colons for points tell addresses apart**, save an IPv4-mapped
address and its namesake. -/
theorem colons_eq_iff :
    colons a.chars = colons b.chars ↔ a = b ∨ IsNamesake a b ∨ IsNamesake b a := by
  constructor
  · intro h
    have hfamily := family_eq_of_colons h
    cases ha : a.family with
    | v4 => exact .inl (eq_of_colons_four ha (hfamily.symm.trans ha) h)
    | v6 =>
      have hb : b.family = .v6 := hfamily.symm.trans ha
      by_cases hamapped : a.IsMapped <;> by_cases hbmapped : b.IsMapped
      · exact .inl (eq_of_colons_mapped hamapped hbmapped h)
      · exact .inr (.inl (isNamesake_of_colons hamapped hb hbmapped h))
      · exact .inr (.inr (isNamesake_of_colons hbmapped ha hamapped h.symm))
      · rw [colons_plain ha hamapped, colons_plain hb hbmapped] at h
        exact .inl (chars_inj h)
  · rintro (rfl | h | h)
    · rfl
    · exact h.colons_eq
    · exact h.colons_eq.symm

end KeaGauge.Net.Address
