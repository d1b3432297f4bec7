import KeaGauge.Text.Blank
import KeaGauge.Text.Numeral
import Mathlib.Data.Nat.Digits.Lemmas
import Mathlib.Tactic.IntervalCases
/-!
# Numerals read back

The numeral of a number in a base up to sixteen is a run of digits that names
the number, has no needless zero in front, and is as long as the number needs.
Padded with zeros it names the same number. So it is read back wherever no
digit follows it.
-/

namespace KeaGauge.Text

variable {base : Nat}

/-! ## Digits -/

theorem digitValue?_digitChar (hbase : base ≤ 16) {d : Nat} (hd : d < base) :
    digitValue? base (Nat.digitChar d) = some d := by
  have hlt : d < 16 := by omega
  interval_cases d <;> simpa [digitValue?, Nat.digitChar] using hd

/-- A digit of a base is one of every greater base. -/
theorem isDigitIn_mono {small large : Nat} (h : small ≤ large) {c : Char}
    (hc : isDigitIn small c = true) : isDigitIn large c = true := by
  obtain ⟨d, hd⟩ := Option.isSome_iff_exists.1 hc
  obtain ⟨hvalue, hlt⟩ := Option.filter_eq_some_iff.1 hd
  exact Option.isSome_iff_exists.2 ⟨d, Option.filter_eq_some_iff.2
    ⟨hvalue, decide_eq_true ((of_decide_eq_true hlt).trans_le h)⟩⟩

theorem not_isBlank_of_isDigitIn {c : Char} (hc : isDigitIn 16 c = true) : isBlank c = false := by
  obtain ⟨d, hd⟩ := Option.isSome_iff_exists.1 hc
  obtain ⟨hvalue, -⟩ := Option.filter_eq_some_iff.1 hd
  simp only [isBlank]
  simp only [Char.le_def, UInt32.le_iff_toNat_le] at hvalue
  split_ifs at hvalue <;> simp at * <;> omega

theorem not_isBlank_of_isDigit {c : Char} (hc : c.isDigit = true) : isBlank c = false := by
  obtain ⟨hlow, hhigh⟩ : 48 ≤ c.toNat ∧ c.toNat ≤ 57 := Char.isDigit_iff_toNat.1 hc
  simp [isBlank]
  omega

theorem ofDigits_append (cs ds : List Char) :
    ofDigits base (cs ++ ds) =
      ds.foldl (fun n c => base * n + (digitValue? base c).getD 0) (ofDigits base cs) :=
  List.foldl_append

/-- **A numeral names its number.** -/
theorem ofDigits_toDigits (hone : 1 < base) (hbase : base ≤ 16) (n : Nat) :
    ofDigits base (Nat.toDigits base n) = n := by
  induction n using Nat.strong_induction_on with
  | _ n ih =>
    rw [Nat.toDigits_eq_if hone]
    split
    · next hlt => simp [ofDigits, digitValue?_digitChar hbase hlt]
    · next hge =>
      have hsmaller : n / base < n := Nat.div_lt_self (by omega) hone
      have hlast := digitValue?_digitChar hbase (Nat.mod_lt n (by omega : 0 < base))
      rw [ofDigits_append, ih _ hsmaller]
      simp only [List.foldl_cons, List.foldl_nil, hlast, Option.getD_some]
      exact Nat.div_add_mod n base

theorem isDigitIn_of_mem_toDigits (hone : 1 < base) (hbase : base ≤ 16) {n : Nat} {c : Char}
    (hc : c ∈ Nat.toDigits base n) : isDigitIn base c = true := by
  induction n using Nat.strong_induction_on with
  | _ n ih =>
    rw [Nat.toDigits_eq_if hone] at hc
    split at hc
    · next hlt =>
      rw [List.mem_singleton.1 hc, isDigitIn, digitValue?_digitChar hbase hlt]
      rfl
    · next hge =>
      rcases List.mem_append.1 hc with hc | hc
      · exact ih _ (Nat.div_lt_self (by omega) hone) hc
      · rw [List.mem_singleton.1 hc, isDigitIn,
          digitValue?_digitChar hbase (Nat.mod_lt n (by omega : 0 < base))]
        rfl

/-- What is no digit is in no numeral. -/
theorem not_mem_toDigits (hone : 1 < base) (hbase : base ≤ 16) {n : Nat} {c : Char}
    (hc : isDigitIn base c = false) : c ∉ Nat.toDigits base n := fun hmem =>
  absurd (isDigitIn_of_mem_toDigits hone hbase hmem) (by simp [hc])

/-- **A numeral is of one number only.** -/
theorem toDigits_inj (hone : 1 < base) (hbase : base ≤ 16) {m n : Nat} :
    Nat.toDigits base m = Nat.toDigits base n ↔ m = n := by
  constructor
  · intro h
    rw [← ofDigits_toDigits hone hbase m, h, ofDigits_toDigits hone hbase]
  · rintro rfl
    rfl

/-- **A numeral has no needless zero in front.** -/
theorem head?_toDigits_ne_zero (hone : 1 < base) {n : Nat} (hn : n ≠ 0) :
    (Nat.toDigits base n).head? ≠ some '0' := by
  induction n using Nat.strong_induction_on with
  | _ n ih =>
    rw [Nat.toDigits_eq_if hone]
    split
    · simpa [Nat.digitChar_eq_zero] using hn
    · next hge =>
      rw [List.head?_append_of_ne_nil _ Nat.toDigits_ne_nil]
      exact ih _ (Nat.div_lt_self (by omega) hone)
        (Nat.div_pos (by omega) (by omega)).ne'

/-- **A numeral is read back** when no digit follows it. -/
theorem numeral?_toDigits (hone : 1 < base) (hbase : base ≤ 16) {most n : Nat} (hmost : 0 < most)
    (hn : n < base ^ most) {rest : List Char} (hrest : ∀ c ∈ rest.head?, isDigitIn base c = false) :
    numeral? base most (Nat.toDigits base n ++ rest) = some (n, rest) := by
  have hdigits : ∀ c ∈ Nat.toDigits base n, isDigitIn base c = true :=
    fun c hc => isDigitIn_of_mem_toDigits hone hbase hc
  have hlength : ¬ most < (Nat.toDigits base n).length :=
    not_lt.2 ((Nat.length_toDigits_le_iff hone hmost).2 hn)
  simp only [numeral?, takeWhile_append_run hdigits hrest, dropWhile_append_run hdigits hrest,
    ofDigits_toDigits hone hbase]
  simp [hlength]

/-- Whatever was read, it was every digit at the front. -/
theorem numeral?_rest {most n : Nat} {cs rest : List Char}
    (h : numeral? base most cs = some (n, rest)) : rest = cs.dropWhile (isDigitIn base) := by
  simp only [numeral?] at h
  split at h
  · exact absurd h (by simp)
  · exact (Prod.mk.inj (Option.some.inj h)).2.symm

/-- The text of an integer: a hyphen if it is negative, and the numeral of its
magnitude. -/
theorem toList_repr (n : Int) :
    (Int.repr n).toList = (if n < 0 then ['-'] else []) ++ Nat.toDigits 10 n.natAbs := by
  cases n with
  | ofNat n => simp [Int.repr, Nat.repr]
  | negSucc n => simp [Int.repr, Nat.repr, Int.natAbs_negSucc]

/-! ## Decimal numerals with zeros in front -/

theorem padded_eq (width n : Nat) :
    padded width n =
      List.replicate (width - (Nat.toDigits 10 n).length) '0' ++ Nat.toDigits 10 n :=
  rfl

theorem length_padded {width n : Nat} (hwidth : 0 < width) (hn : n < 10 ^ width) :
    (padded width n).length = width := by
  have hle := (Nat.length_toDigits_le_iff (by decide : 1 < 10) hwidth).2 hn
  rw [padded, List.length_leftpad]
  omega

theorem padded_ne_nil (width n : Nat) : padded width n ≠ [] := by
  simp [padded_eq]

theorem isDigit_of_mem_padded {width n : Nat} {c : Char} (hc : c ∈ padded width n) :
    c.isDigit = true := by
  rw [padded_eq, List.mem_append, List.mem_replicate] at hc
  rcases hc with ⟨-, rfl⟩ | hc
  · rfl
  · exact Nat.isDigit_of_mem_toDigits (by decide) (by decide) hc

/-- Zeros in front change nothing. -/
theorem ofDigitChars_padded (width n : Nat) : Nat.ofDigitChars 10 (padded width n) 0 = n := by
  rw [padded_eq, Nat.ofDigitChars_append, Nat.ofDigitChars_replicate_zero, Nat.mul_zero,
    Nat.ofDigitChars_ten_toDigits]

end KeaGauge.Text
