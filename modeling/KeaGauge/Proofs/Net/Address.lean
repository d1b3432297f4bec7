import KeaGauge.Net.Address.Reader
import KeaGauge.Proofs.Text.Numeral
/-!
# Addresses read back

The canonical text of an address is read back in either grammar, wherever
nothing follows that could belong to it (`read?_chars`). A dotted form is read
octet by octet. Groups are read up to where no further group begins
(`EndsGroups`), which is at the end of an address or at a double colon, and
the zeros that the double colon stands for are those that were left out
(`longestZeros_spec`).
-/

namespace KeaGauge.Net.Address

open Text (Reader after? isDigitIn)

/-! ## Parts of a number -/

section Parts

variable {base : Nat}

theorem length_split (base count n : Nat) : (split base count n).length = count := by
  induction count with
  | zero => rfl
  | succ count ih => rw [split, List.length_cons, ih]

theorem lt_of_mem_split (hbase : 0 < base) {count n part : Nat} (h : part ∈ split base count n) :
    part < base := by
  induction count with
  | zero => exact absurd h List.not_mem_nil
  | succ count ih =>
    rcases List.mem_cons.1 h with rfl | h
    · exact Nat.mod_lt _ hbase
    · exact ih h

theorem foldl_join (parts : List Nat) (front : Nat) :
    parts.foldl (fun n part => base * n + part) front =
      front * base ^ parts.length + join base parts := by
  induction parts generalizing front with
  | nil => simp [join]
  | cons part parts ih =>
    rw [join, List.foldl_cons, List.foldl_cons, ih, ih (base * 0 + part), List.length_cons,
      pow_succ]
    ring

theorem join_cons (part : Nat) (parts : List Nat) :
    join base (part :: parts) = part * base ^ parts.length + join base parts := by
  rw [join, List.foldl_cons, foldl_join, Nat.mul_zero, Nat.zero_add]

/-- **The parts of a number name it**, as far as they go. -/
theorem join_split (base count n : Nat) : join base (split base count n) = n % base ^ count := by
  induction count with
  | zero => simp [split, join, Nat.mod_one]
  | succ count ih =>
    rw [split, join_cons, length_split, ih, Nat.pow_eq, pow_succ, Nat.mod_mul]
    ring

/-- No more of a number matters than its parts name. -/
theorem split_mod (base count n : Nat) :
    split base count (n % base ^ count) = split base count n := by
  induction count generalizing n with
  | zero => rfl
  | succ count ih =>
    have hfirst : n % base ^ (count + 1) / base ^ count = n / base ^ count % base := by
      rw [pow_succ, Nat.mod_mul_right_div_self]
    have hrest : n % base ^ (count + 1) % base ^ count = n % base ^ count :=
      Nat.mod_mod_of_dvd n (pow_dvd_pow base (Nat.le_succ count))
    rw [split, split, Nat.pow_eq, hfirst, Nat.mod_mod, ← ih (n % base ^ (count + 1)), hrest, ih]

theorem join_lt {parts : List Nat} (hlt : ∀ part ∈ parts, part < base) :
    join base parts < base ^ parts.length := by
  induction parts with
  | nil => simp [join]
  | cons part parts ih =>
    obtain ⟨hpart, hparts⟩ := List.forall_mem_cons.1 hlt
    calc join base (part :: parts) = part * base ^ parts.length + join base parts := join_cons ..
      _ < part * base ^ parts.length + base ^ parts.length :=
          Nat.add_lt_add_left (ih hparts) _
      _ = (part + 1) * base ^ parts.length := (Nat.succ_mul ..).symm
      _ ≤ base * base ^ parts.length := Nat.mul_le_mul_right _ hpart
      _ = base ^ (part :: parts).length := by rw [List.length_cons, pow_succ']

/-- **Parts are found again** in the number that they name. -/
theorem split_join {parts : List Nat} (hlt : ∀ part ∈ parts, part < base) :
    split base parts.length (join base parts) = parts := by
  induction parts with
  | nil => rfl
  | cons part parts ih =>
    obtain ⟨hpart, hparts⟩ := List.forall_mem_cons.1 hlt
    have hbehind := join_lt hparts
    have hfirst : (part * base ^ parts.length + join base parts) / base ^ parts.length = part := by
      rw [Nat.mul_comm, Nat.mul_add_div (Nat.zero_lt_of_lt hbehind), Nat.div_eq_of_lt hbehind,
        Nat.add_zero]
    have hrest : (part * base ^ parts.length + join base parts) % base ^ parts.length =
        join base parts := by
      rw [Nat.mul_add_mod', Nat.mod_eq_of_lt hbehind]
    rw [List.length_cons, join_cons, split, Nat.pow_eq, hfirst, Nat.mod_eq_of_lt hpart,
      ← split_mod, hrest, ih hparts]

end Parts

/-! ## Dotted forms -/

theorem after?_eq_none {c : Char} {cs : List Char} (h : cs.head? ≠ some c) :
    after? c cs = none := by
  cases cs with
  | nil => rfl
  | cons d rest => exact if_neg fun heq => h (by rw [heq]; rfl)

/-- What follows is no digit of a base. -/
def EndsDigits (base : Nat) (rest : List Char) : Prop :=
  ∀ c ∈ rest.head?, isDigitIn base c = false

theorem EndsDigits.cons {base : Nat} {c : Char} (h : isDigitIn base c = false) (rest : List Char) :
    EndsDigits base (c :: rest) := by
  intro d hd
  obtain rfl := Option.some.inj hd
  exact h

theorem EndsDigits.decimal {rest : List Char} (h : EndsDigits 16 rest) : EndsDigits 10 rest :=
  fun c hc => by
    by_contra hdigit
    have hsmall : isDigitIn 10 c = true := Bool.of_not_eq_false hdigit
    have hlarge := Text.isDigitIn_mono (by decide : 10 ≤ 16) hsmall
    exact absurd (h c hc) (by simp [hlarge])

theorem EndsDigits.numeral?_eq_none {base : Nat} {rest : List Char} (h : EndsDigits base rest)
    (most : Nat) : Text.numeral? base most rest = none := by
  cases rest with
  | nil => rfl
  | cons c rest => simp [Text.numeral?, List.takeWhile, h c rfl]

variable {g : Grammar} {rest : List Char}

theorem octet?_toDigits {n : Nat} (hn : n < 256) (hrest : EndsDigits 10 rest) :
    octet? g (Nat.toDigits 10 n ++ rest) = some (n, rest) := by
  have hnumeral := Text.numeral?_toDigits (by decide : 1 < 10) (by decide) (by decide : 0 < 3)
    (by omega : n < 10 ^ 3) hrest
  -- only the numeral of zero has a zero in front, and it is one digit long
  have hpadded : ¬ ((Nat.toDigits 10 n ++ rest).head? = some '0' ∧
      rest.length + 1 < (Nat.toDigits 10 n ++ rest).length) := by
    rintro ⟨hzero, hlength⟩
    rw [List.head?_append_of_ne_nil _ Nat.toDigits_ne_nil] at hzero
    by_cases hn : n = 0
    · subst hn
      simp at hlength
    · exact Text.head?_toDigits_ne_zero (by decide) hn hzero
  simp only [octet?, hnumeral, Option.bind_eq_bind, Option.bind_some]
  rw [if_neg]
  rintro (h | ⟨h, -⟩)
  · omega
  · exact hpadded h

/-- **A dotted form is read back.** -/
theorem dotted?_dottedChars (n : Nat) (hrest : EndsDigits 10 rest) :
    dotted? g (dottedChars n ++ rest) = some (split 256 4 n, rest) := by
  have hlt : ∀ part ∈ split 256 4 n, part < 256 := fun part => lt_of_mem_split (by decide)
  obtain ⟨a, b, c, d, hparts⟩ : ∃ a b c d, split 256 4 n = [a, b, c, d] := ⟨_, _, _, _, rfl⟩
  rw [hparts] at hlt
  simp only [List.forall_mem_cons] at hlt
  obtain ⟨ha, hb, hc, hd, -⟩ := hlt
  have hpoint : ∀ more, EndsDigits 10 ('.' :: more) := EndsDigits.cons rfl
  have htext : dottedChars n ++ rest = Nat.toDigits 10 a ++ '.' :: (Nat.toDigits 10 b ++
      '.' :: (Nat.toDigits 10 c ++ '.' :: (Nat.toDigits 10 d ++ rest))) := by
    simp [dottedChars, hparts, List.intercalate, List.intersperse]
  simp [htext, hparts, dotted?, after?, octet?_toDigits ha (hpoint _),
    octet?_toDigits hb (hpoint _), octet?_toDigits hc (hpoint _), octet?_toDigits hd hrest]

theorem octet?_rest {cs : List Char} {n : Nat} (h : octet? g cs = some (n, rest)) :
    rest = cs.dropWhile (isDigitIn 10) := by
  cases hnumeral : Text.numeral? 10 3 cs with
  | none => simp [octet?, hnumeral] at h
  | some found =>
    obtain ⟨m, after⟩ := found
    simp only [octet?, hnumeral, Option.bind_eq_bind, Option.bind_some] at h
    split at h
    · exact absurd h (by simp)
    · rw [← (Prod.mk.inj (Option.some.inj h)).2]
      exact Text.numeral?_rest hnumeral

/-- There is no dotted form where the first digits are not followed by a
point. -/
theorem dotted?_eq_none {cs : List Char} (h : (cs.dropWhile (isDigitIn 10)).head? ≠ some '.') :
    dotted? g cs = none := by
  cases hoctet : octet? g cs with
  | none => simp [dotted?, hoctet]
  | some found =>
    obtain ⟨n, rest⟩ := found
    have hnone := after?_eq_none (octet?_rest hoctet ▸ h)
    simp [dotted?, hoctet, hnone]

/-! ## Groups -/

/-- **No further group follows**: no digit that would belong to the last one,
no point, and no colon with a group behind it. -/
def EndsGroups (rest : List Char) : Prop :=
  EndsDigits 16 rest ∧ rest.head? ≠ some '.' ∧ ∀ more, rest = ':' :: more → EndsDigits 16 more

/-- The text of groups behind the first. -/
def moreGroups (parts : List Nat) : List Char := parts.flatMap fun p => ':' :: Nat.toDigits 16 p

theorem groupChars_cons_cons (part next : Nat) (parts : List Nat) :
    groupChars (part :: next :: parts) =
      Nat.toDigits 16 part ++ ':' :: groupChars (next :: parts) := by
  simp [groupChars, List.intercalate]

theorem groupChars_cons (part : Nat) (parts : List Nat) :
    groupChars (part :: parts) = Nat.toDigits 16 part ++ moreGroups parts := by
  induction parts generalizing part with
  | nil => simp [groupChars, moreGroups, List.intercalate]
  | cons next parts ih =>
    rw [groupChars_cons_cons, ih]
    rfl

/-- Digits of groups are not those of a dotted form when no point follows. -/
theorem dotted?_group (part : Nat) (hrest : EndsDigits 16 rest) (hpoint : rest.head? ≠ some '.') :
    dotted? g (Nat.toDigits 16 part ++ rest) = none := by
  refine dotted?_eq_none fun hhead => ?_
  rw [List.dropWhile_append] at hhead
  split at hhead
  · have hstop : ([] ++ rest).dropWhile (isDigitIn 10) = rest :=
      Text.dropWhile_append_run (by simp) hrest.decimal
    exact hpoint (hstop ▸ hhead)
  · next hne =>
    rw [List.head?_append_of_ne_nil _ (by simpa using hne)] at hhead
    have hmem : '.' ∈ Nat.toDigits 16 part :=
      (List.dropWhile_sublist _).subset (List.mem_of_mem_head? hhead)
    exact absurd hmem (Text.not_mem_toDigits (by decide) (by decide) rfl)

theorem group?_toDigits {part : Nat} (hpart : part < 65536) (hrest : EndsDigits 16 rest) :
    group? (Nat.toDigits 16 part ++ rest) = some (part, rest) :=
  Text.numeral?_toDigits (by decide) (by decide) (by decide) hpart hrest

theorem EndsDigits.dotted?_eq_none (hrest : EndsDigits 16 rest) : dotted? g rest = none := by
  simp [dotted?, octet?, hrest.decimal.numeral?_eq_none]

theorem EndsGroups.groups_eq (hrest : EndsGroups rest) (limit : Nat) (isFirst : Bool) :
    groups g limit isFirst rest = ([], false, rest) := by
  obtain ⟨hdigits, -, hcolon⟩ := hrest
  have hmore : ∀ more, separated? isFirst rest = some more → EndsDigits 16 more := by
    intro more hmore
    cases isFirst with
    | true => exact Option.some.inj hmore ▸ hdigits
    | false =>
      cases rest with
      | nil => exact absurd hmore (by simp [separated?, after?])
      | cons c cs =>
        by_cases hc : c = ':'
        · subst hc
          exact Option.some.inj hmore ▸ hcolon cs rfl
        · exact absurd hmore (by simp [separated?, after?, hc])
  cases limit with
  | zero => rfl
  | succ limit =>
    cases hseparated : separated? isFirst rest with
    | none => simp [groups, hseparated]
    | some more =>
      have hends := hmore more hseparated
      simp [groups, hseparated, hends.dotted?_eq_none, group?, hends.numeral?_eq_none]

/-- One group is read before the others. -/
theorem groups_step {limit part : Nat} {isFirst : Bool} {cs more : List Char}
    (hcs : separated? isFirst cs = some (Nat.toDigits 16 part ++ more)) (hpart : part < 65536)
    (hmore : EndsDigits 16 more) (hpoint : more.head? ≠ some '.') :
    groups g (limit + 1) isFirst cs =
      (part :: (groups g limit false more).1, (groups g limit false more).2) := by
  simp [groups, hcs, dotted?_group part hmore hpoint, group?_toDigits hpart hmore]

/-- Behind a group come digits of no group. -/
theorem EndsGroups.moreGroups (hrest : EndsGroups rest) (parts : List Nat) :
    EndsDigits 16 (moreGroups parts ++ rest) ∧ (moreGroups parts ++ rest).head? ≠ some '.' := by
  cases parts with
  | nil => exact ⟨hrest.1, hrest.2.1⟩
  | cons part parts =>
    exact ⟨EndsDigits.cons rfl _, by simp [Address.moreGroups]⟩

theorem groups_moreGroups {limit : Nat} {parts : List Nat} (hlt : ∀ part ∈ parts, part < 65536)
    (hlimit : parts.length ≤ limit) (hrest : EndsGroups rest) :
    groups g limit false (moreGroups parts ++ rest) = (parts, false, rest) := by
  induction parts generalizing limit with
  | nil => exact hrest.groups_eq limit false
  | cons part parts ih =>
    obtain ⟨limit, rfl⟩ : ∃ k, limit = k + 1 := ⟨limit - 1, by simp at hlimit; omega⟩
    obtain ⟨hpart, hparts⟩ := List.forall_mem_cons.1 hlt
    obtain ⟨hdigits, hpoint⟩ := hrest.moreGroups parts
    have hcs : separated? false (moreGroups (part :: parts) ++ rest) =
        some (Nat.toDigits 16 part ++ (moreGroups parts ++ rest)) := by
      simp [separated?, moreGroups, after?]
    rw [groups_step hcs hpart hdigits hpoint, ih hparts (by simpa using hlimit)]

/-- **Groups are read back.** -/
theorem groups_groupChars {limit : Nat} {parts : List Nat} (hlt : ∀ part ∈ parts, part < 65536)
    (hlimit : parts.length ≤ limit) (hrest : EndsGroups rest) :
    groups g limit true (groupChars parts ++ rest) = (parts, false, rest) := by
  cases parts with
  | nil => exact hrest.groups_eq limit true
  | cons part parts =>
    obtain ⟨limit, rfl⟩ : ∃ k, limit = k + 1 := ⟨limit - 1, by simp at hlimit; omega⟩
    obtain ⟨hpart, hparts⟩ := List.forall_mem_cons.1 hlt
    obtain ⟨hdigits, hpoint⟩ := hrest.moreGroups parts
    rw [groupChars_cons, List.append_assoc, groups_step rfl hpart hdigits hpoint,
      groups_moreGroups hparts (by simpa using hlimit) hrest]

/-! ## Zeros left out -/

theorem take_zerosAt (parts : List Nat) (i : Nat) :
    (parts.drop i).take (zerosAt parts i) = List.replicate (zerosAt parts i) 0 := by
  rw [zerosAt, ← List.prefix_iff_eq_take.1 (List.takeWhile_prefix _)]
  refine List.eq_replicate_iff.2 ⟨rfl, fun part hpart => ?_⟩
  have hall := List.all_eq_true.1 List.all_takeWhile part hpart
  exact of_decide_eq_true hall

/-- **The zeros left out stand where they are said to.** -/
theorem longestZeros_spec (parts : List Nat) {start count : Nat}
    (h : longestZeros parts = (start, count)) :
    parts = parts.take start ++ (List.replicate count 0 ++ parts.drop (start + count)) := by
  have hcount : count ≤ zerosAt parts start := by
    suffices hfold : ∀ (places : List Nat) (best : Nat × Nat), best.2 ≤ zerosAt parts best.1 →
        let found := places.foldl (fun best i =>
          if best.2 < zerosAt parts i then (i, zerosAt parts i) else best) best
        found.2 ≤ zerosAt parts found.1 by
      have hfound := hfold (List.range parts.length) (0, 0) (Nat.zero_le _)
      rw [longestZeros] at h
      simpa only [h] using hfound
    intro places
    induction places with
    | nil => exact fun best hbest => hbest
    | cons i places ih =>
      intro best hbest
      refine ih _ ?_
      by_cases hlonger : best.2 < zerosAt parts i
      · simp [hlonger]
      · simpa [hlonger] using hbest
  have hzeros : (parts.drop start).take count = List.replicate count 0 := by
    calc (parts.drop start).take count
        = ((parts.drop start).take (zerosAt parts start)).take count := by
          rw [List.take_take, Nat.min_eq_left hcount]
      _ = List.replicate count 0 := by
          rw [take_zerosAt, List.take_replicate, Nat.min_eq_left hcount]
  calc parts = parts.take start ++ parts.drop start := (List.take_append_drop start parts).symm
    _ = parts.take start ++ ((parts.drop start).take count ++ (parts.drop start).drop count) := by
        rw [List.take_append_drop count, List.take_append_drop start]
    _ = _ := by rw [hzeros, List.drop_drop]

/-! ## Eight groups -/

theorem endsGroups_gap (rest : List Char) : EndsGroups (':' :: ':' :: rest) := by
  refine ⟨EndsDigits.cons rfl _, by simp, fun more hmore => ?_⟩
  obtain rfl := (List.cons.inj hmore).2
  exact EndsDigits.cons rfl _

/-- **Groups on both sides of a double colon are read**, with zeros for those
that it stands for. -/
theorem six?_gap {front back : List Nat} (hfront : ∀ part ∈ front, part < 65536)
    (hback : ∀ part ∈ back, part < 65536) (hlength : front.length + back.length < 8)
    (hrest : EndsGroups rest) :
    six? g (groupChars front ++ ':' :: ':' :: (groupChars back ++ rest)) =
      some (ofNat .v6 (join 65536
        (front ++ List.replicate (8 - front.length - back.length) 0 ++ back)), rest) := by
  have hreadfront :
      groups g 8 true (groupChars front ++ ':' :: ':' :: (groupChars back ++ rest)) =
        (front, false, ':' :: ':' :: (groupChars back ++ rest)) :=
    groups_groupChars hfront (by omega) (endsGroups_gap _)
  have hreadback : groups g ((if g.emptyGap then 8 else 7) - front.length) true
      (groupChars back ++ rest) = (back, false, rest) :=
    groups_groupChars hback (by split <;> omega) hrest
  simp only [six?, hreadfront, hreadback]
  rw [if_neg (by omega)]
  simp

/-- **Eight groups are read back**, with a double colon or without. -/
theorem six?_sixChars {parts : List Nat} (hlength : parts.length = 8)
    (hlt : ∀ part ∈ parts, part < 65536) (hrest : EndsGroups rest) :
    six? g (sixChars parts ++ rest) = some (ofNat .v6 (join 65536 parts), rest) := by
  obtain ⟨start, count, hzeros⟩ : ∃ start count, longestZeros parts = (start, count) :=
    ⟨_, _, rfl⟩
  simp only [sixChars, hzeros]
  split
  · simp [six?, groups_groupChars hlt hlength.le hrest, hlength]
  · next hcount =>
    have hspec := longestZeros_spec parts hzeros
    set front := parts.take start with hfront
    set back := parts.drop (start + count) with hback
    have hlengths : front.length + (count + back.length) = 8 := by
      rw [← hlength]
      conv_rhs => rw [hspec]
      simp
    have hfrontlt : ∀ part ∈ front, part < 65536 :=
      fun part hpart => hlt part (List.mem_of_mem_take hpart)
    have hbacklt : ∀ part ∈ back, part < 65536 :=
      fun part hpart => hlt part (List.mem_of_mem_drop hpart)
    have hgap : 8 - front.length - back.length = count := by omega
    rw [List.append_assoc, List.cons_append, List.cons_append,
      six?_gap hfrontlt hbacklt (by omega) hrest, hgap, List.append_assoc, ← hspec]

/-- The dotted form at the end of an IPv6 address takes the place of two
groups. -/
theorem groups_dotted {limit : Nat} (hlimit : 0 < limit) (n : Nat) (hrest : EndsDigits 10 rest) :
    groups g (limit + 1) false (':' :: (dottedChars n ++ rest)) =
      (split 65536 2 (join 256 (split 256 4 n)), true, rest) := by
  have hcs : separated? false (':' :: (dottedChars n ++ rest)) = some (dottedChars n ++ rest) := by
    simp [separated?, after?]
  simp [groups, hcs, dotted?_dottedChars n hrest, hlimit.ne']

/-- The mark of an IPv4-mapped address behind its double colon. -/
def mappedMark : List Char := ['f', 'f', 'f', 'f', ':']

/-- The groups of an IPv4-mapped address behind its double colon. -/
theorem groups_mappedMark (limit n : Nat) (hrest : EndsDigits 10 rest) :
    groups g (limit + 3) true (mappedMark ++ (dottedChars n ++ rest)) =
      (0xFFFF :: split 65536 2 (join 256 (split 256 4 n)), true, rest) := by
  have hcs : separated? true (mappedMark ++ (dottedChars n ++ rest)) =
      some (Nat.toDigits 16 0xFFFF ++ ':' :: (dottedChars n ++ rest)) := rfl
  rw [groups_step hcs (by decide) (EndsDigits.cons rfl _) (by simp),
    groups_dotted (by omega) n hrest]

/-- **An IPv4-mapped address is read back.** -/
theorem six?_mapped (n : Nat) (hrest : EndsDigits 10 rest) :
    six? g ([':', ':', 'f', 'f', 'f', 'f', ':'] ++ dottedChars n ++ rest) =
      some (ofNat .v6 (0xFFFF * 0x100000000 + n % 0x100000000), rest) := by
  have hmark : [':', ':', 'f', 'f', 'f', 'f', ':'] ++ dottedChars n ++ rest =
      ':' :: ':' :: (mappedMark ++ (dottedChars n ++ rest)) := by
    rw [List.append_assoc]
    rfl
  have hgap : groups g 8 true (':' :: ':' :: (mappedMark ++ (dottedChars n ++ rest))) =
      ([], false, ':' :: ':' :: (mappedMark ++ (dottedChars n ++ rest))) :=
    (endsGroups_gap _).groups_eq 8 true
  obtain ⟨x, y, hparts⟩ : ∃ x y, split 65536 2 (join 256 (split 256 4 n)) = [x, y] := ⟨_, _, rfl⟩
  have hvalue : 65536 * x + y = n % 0x100000000 := by
    have hjoin := join_split 65536 2 (join 256 (split 256 4 n))
    rw [hparts, join_split 256 4 n] at hjoin
    simp only [join, List.foldl_cons, List.foldl_nil] at hjoin
    omega
  have hback : groups g ((if g.emptyGap then 8 else 7) - 0) true
      (mappedMark ++ (dottedChars n ++ rest)) = ([0xFFFF, x, y], true, rest) := by
    rw [← hparts]
    split
    · exact groups_mappedMark 5 n hrest
    · exact groups_mappedMark 4 n hrest
  rw [hmark]
  simp only [six?, hgap, List.length_nil, hback]
  rw [if_neg (by decide), if_neg (by decide)]
  simp only [join, List.length_cons, List.length_nil, List.foldl_append, List.foldl_cons,
    List.foldl_nil, List.replicate]
  exact congrArg (fun k => some (ofNat .v6 k, rest)) (by omega)

/-! ## Addresses -/

theorem ofNat_value (a : Address) : ofNat a.family a.value = a := by
  rw [ofNat, value, BitVec.ofNat_toNat, BitVec.setWidth_eq]

theorem value_lt (a : Address) : a.value < 2 ^ a.family.width := a.bits.isLt

theorem EndsGroups.decimal (h : EndsGroups rest) : EndsDigits 10 rest := h.1.decimal

/-- **An IPv4 address is read back.** -/
theorem four?_chars {a : Address} (ha : a.family = .v4) (hrest : EndsDigits 10 rest) :
    four? g (a.chars ++ rest) = some (a, rest) := by
  have hvalue := a.value_lt
  have hsame := a.ofNat_value
  rw [ha] at hvalue hsame
  have hjoin : join 256 (split 256 4 a.value) = a.value := by
    rw [join_split]
    exact Nat.mod_eq_of_lt hvalue
  simp [four?, chars, ha, dotted?_dottedChars a.value hrest, hjoin, hsame]

/-- **An IPv6 address is read back.** -/
theorem six?_chars {a : Address} (ha : a.family = .v6) (hrest : EndsGroups rest) :
    six? g (a.chars ++ rest) = some (a, rest) := by
  have hvalue := a.value_lt
  have hsame := a.ofNat_value
  rw [ha] at hvalue hsame
  simp only [chars, ha]
  split
  · next hmapped =>
    have hsplit : 0xFFFF * 0x100000000 + a.value % 0x100000000 = a.value := by
      simp only [isMapped, decide_eq_true_eq] at hmapped
      omega
    rw [six?_mapped _ hrest.decimal, Nat.mod_mod, hsplit, hsame]
  · have hjoin : join 65536 (split 65536 8 a.value) = a.value := by
      rw [join_split]
      exact Nat.mod_eq_of_lt hvalue
    rw [six?_sixChars (length_split _ _ _) (fun _ => lt_of_mem_split (by decide)) hrest, hjoin,
      hsame]

/-- The text of an IPv6 address begins as no dotted form does. -/
theorem four?_six {a : Address} (ha : a.family = .v6) (hrest : EndsGroups rest) :
    four? g (a.chars ++ rest) = none := by
  have hgap : ∀ more, dotted? g (':' :: more) = none := fun more =>
    (EndsDigits.cons rfl more).dotted?_eq_none
  have hgroups : ∀ parts more, EndsGroups more →
      dotted? g (groupChars parts ++ more) = none := by
    intro parts more hmore
    cases parts with
    | nil => exact hmore.1.dotted?_eq_none
    | cons part parts =>
      rw [groupChars_cons, List.append_assoc]
      exact dotted?_group part (hmore.moreGroups parts).1 (hmore.moreGroups parts).2
  have hdotted : dotted? g (a.chars ++ rest) = none := by
    simp only [chars, ha]
    split
    · exact hgap _
    · unfold sixChars
      dsimp only
      split
      · exact hgroups _ _ hrest
      · rw [List.append_assoc]
        exact hgroups _ _ (endsGroups_gap _)
  rw [four?, hdotted]
  rfl

/-- **An address is read back**, whatever the grammar. -/
theorem read?_chars (a : Address) (hrest : EndsGroups rest) :
    read? g (a.chars ++ rest) = some (a, rest) := by
  cases ha : a.family with
  | v4 => rw [read?, four?_chars ha hrest.decimal]; rfl
  | v6 => rw [read?, four?_six ha hrest, six?_chars ha hrest]; rfl

theorem endsGroups_nil : EndsGroups [] :=
  ⟨fun c hc => absurd hc (by simp), by simp, fun _ h => absurd h (by simp)⟩

/-- **An address that stands alone is read back.** -/
theorem ofChars?_chars (a : Address) : ofChars? a.chars = some a := by
  have hread : read? alone (a.chars ++ []) = some (a, []) := read?_chars a endsGroups_nil
  rw [List.append_nil] at hread
  simp [ofChars?, hread]

/-- No two addresses have one text. -/
theorem chars_inj {a b : Address} (h : a.chars = b.chars) : a = b :=
  Option.some.inj ((ofChars?_chars a).symm.trans (h ▸ ofChars?_chars b))

/-! ## The characters of an address -/

theorem mem_dottedChars {n : Nat} {c : Char} (h : c ∈ dottedChars n) :
    c = '.' ∨ isDigitIn 16 c = true := by
  obtain ⟨w, x, y, z, hparts⟩ : ∃ w x y z, split 256 4 n = [w, x, y, z] := ⟨_, _, _, _, rfl⟩
  have hdigit : ∀ part, c ∈ Nat.toDigits 10 part → isDigitIn 16 c = true := fun part hc =>
    Text.isDigitIn_mono (by decide) (Text.isDigitIn_of_mem_toDigits (by decide) (by decide) hc)
  simp only [dottedChars, hparts, List.intercalate, List.map_cons, List.map_nil,
    List.intersperse_cons_cons, List.intersperse_singleton, List.flatten_cons, List.flatten_nil,
    List.append_nil, List.mem_append, List.mem_singleton] at h
  rcases h with h | rfl | h | rfl | h | rfl | h
  all_goals first | exact .inl rfl | exact .inr (hdigit _ h)

theorem mem_groupChars {parts : List Nat} {c : Char} (h : c ∈ groupChars parts) :
    c = ':' ∨ isDigitIn 16 c = true := by
  have hdigit : ∀ part, c ∈ Nat.toDigits 16 part → isDigitIn 16 c = true := fun part hc =>
    Text.isDigitIn_of_mem_toDigits (by decide) (by decide) hc
  cases parts with
  | nil => exact absurd h List.not_mem_nil
  | cons part parts =>
    rw [groupChars_cons, List.mem_append, moreGroups, List.mem_flatMap] at h
    rcases h with h | ⟨next, -, h⟩
    · exact .inr (hdigit part h)
    · rcases List.mem_cons.1 h with h | h
      · exact .inl h
      · exact .inr (hdigit next h)

theorem mem_sixChars {parts : List Nat} {c : Char} (h : c ∈ sixChars parts) :
    c = ':' ∨ isDigitIn 16 c = true := by
  unfold sixChars at h
  dsimp only at h
  split at h
  · exact mem_groupChars h
  · simp only [List.mem_append, List.mem_cons] at h
    rcases h with h | h | h | h
    · exact mem_groupChars h
    · exact .inl h
    · exact .inl h
    · exact mem_groupChars h

/-- **An address is written with points, colons and hexadecimal digits.** -/
theorem mem_chars {a : Address} {c : Char} (h : c ∈ a.chars) :
    c = '.' ∨ c = ':' ∨ isDigitIn 16 c = true := by
  have hdotted : ∀ n, c ∈ dottedChars n → c = '.' ∨ c = ':' ∨ isDigitIn 16 c = true :=
    fun _ hc => (mem_dottedChars hc).imp_right .inr
  unfold chars at h
  split at h
  · exact hdotted _ h
  split at h
  · rcases List.mem_append.1 h with h | h
    · have hletter : isDigitIn 16 'f' = true := rfl
      simp only [List.mem_cons, List.not_mem_nil, or_false] at h
      rcases h with rfl | rfl | rfl | rfl | rfl | rfl | rfl
      all_goals first | exact .inr (.inl rfl) | exact .inr (.inr hletter)
    · exact hdotted _ h
  · exact .inr (mem_sixChars h)

theorem not_isBlank_of_mem_chars {a : Address} {c : Char} (h : c ∈ a.chars) :
    Text.isBlank c = false := by
  rcases mem_chars h with rfl | rfl | h
  · rfl
  · rfl
  · exact Text.not_isBlank_of_isDigitIn h

/-- **Trimming leaves the text of an address as it is.** -/
theorem trim_chars (a : Address) : Text.trim a.chars = a.chars :=
  Text.trim_eq_self (fun _ hc => not_isBlank_of_mem_chars (List.mem_of_mem_head? hc))
    fun _ hc => not_isBlank_of_mem_chars (List.mem_of_mem_getLast? hc)

end KeaGauge.Net.Address
