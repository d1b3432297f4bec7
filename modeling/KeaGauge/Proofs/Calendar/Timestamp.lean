import KeaGauge.Calendar.Timestamp
import KeaGauge.Proofs.Calendar.Instant
import KeaGauge.Proofs.Text.Numeral
/-!
# Timestamps read back

Numbers of a fixed width are read one by one (`number?_padded`), whatever
follows them; only a year behind a sign needs something behind it that is no
digit. A leap second is written as second 60 and read as what it is, but a
fraction of a second or more behind any other second is written as one of the
second after, and read so (`written?_writtenSecond`). So an instant is read
back, without what is below a microsecond, just when clocks show it
(`written_read`).
-/

namespace KeaGauge.Calendar

/-! ## Whole microseconds -/

/-- The time without what is below a microsecond. -/
def Clock.truncated (t : Clock) : Clock where
  hour := t.hour
  minute := t.minute
  second := t.second
  nanos := t.nanos / 1000 * 1000
  hour_lt := t.hour_lt
  minute_lt := t.minute_lt
  second_lt := t.second_lt
  nanos_lt := by have := t.nanos_lt; omega

/-- The instant without what is below a microsecond. -/
def Instant.truncated (t : Instant) : Instant := ⟨t.date, t.clock.truncated⟩

/-- A time that clocks do not show has a second that is not the last of its
minute. -/
theorem Clock.second_succ_lt {t : Clock} (h : ¬ t.IsRegular) : t.second + 1 < 60 := by
  have hsecond := t.second_lt
  unfold IsRegular at h
  omega

/-- A time that clocks do not show as one in the second after, without what is
below a microsecond. -/
def Clock.carried (t : Clock) (h : ¬ t.IsRegular) : Clock where
  hour := t.hour
  minute := t.minute
  second := t.second + 1
  nanos := (t.nanos - 1000000000) / 1000 * 1000
  hour_lt := t.hour_lt
  minute_lt := t.minute_lt
  second_lt := Clock.second_succ_lt h
  nanos_lt := by have := t.nanos_lt; omega

/-- **The time that is read** where a time was written. -/
def Clock.reread (t : Clock) : Clock := if h : t.IsRegular then t.truncated else t.carried h

/-- The instant that is read where an instant was written. -/
def Instant.reread (t : Instant) : Instant := ⟨t.date, t.clock.reread⟩

/-- **The second that is written tells how it is read.** -/
theorem Clock.written?_writtenSecond (t : Clock) :
    Clock.written? t.hour t.minute t.writtenSecond (t.fraction / 1000 * 1000) =
      some t.reread := by
  have hsecond := t.second_lt
  have hlt := t.nanos_lt
  have htruncated : t.truncated.nanos = t.nanos / 1000 * 1000 := rfl
  unfold reread written? writtenSecond fraction
  by_cases hregular : t.IsRegular
  · rw [dif_pos hregular]
    by_cases hleap : t.nanos < 1000000000
    · have hwritten : t.second + t.nanos / 1000000000 = t.second := by omega
      rw [hwritten, if_neg hsecond.ne, of?_eq_some_iff]
      refine ⟨⟨rfl, rfl, rfl, ?_⟩, .inl ?_⟩
      · rw [htruncated]
        omega
      · rw [htruncated]
        omega
    · -- a leap second
      have hlast : t.second = 59 := hregular.resolve_left hleap
      have hwritten : t.second + t.nanos / 1000000000 = 60 := by omega
      rw [hwritten, if_pos rfl, of?_eq_some_iff]
      refine ⟨⟨rfl, rfl, hlast, ?_⟩, .inr hlast⟩
      rw [htruncated]
      omega
  · have hnext := second_succ_lt hregular
    have hlong : 1000000000 ≤ t.nanos := Nat.le_of_not_lt fun h => hregular (.inl h)
    have hcarried : (t.carried hregular).nanos = (t.nanos - 1000000000) / 1000 * 1000 := rfl
    have hwritten : t.second + t.nanos / 1000000000 = t.second + 1 := by omega
    rw [dif_neg hregular, hwritten, if_neg hnext.ne, of?_eq_some_iff]
    refine ⟨⟨rfl, rfl, rfl, ?_⟩, .inl ?_⟩
    · rw [hcarried]
      omega
    · rw [hcarried]
      omega

theorem daysInMonth_le (year : Int) (month : Nat) : daysInMonth year month ≤ 31 := by
  unfold daysInMonth
  repeat' split
  all_goals decide

namespace Timestamp

open Text (Reader after? padded)

variable {rest : List Char}

/-! ## Numbers -/

theorem padded_begins (width n : Nat) :
    ∃ c cs, padded width n = c :: cs ∧ c.isDigit = true := by
  cases hpadded : padded width n with
  | nil => exact absurd hpadded (Text.padded_ne_nil width n)
  | cons c cs =>
    exact ⟨c, cs, rfl, Text.isDigit_of_mem_padded (hpadded ▸ List.mem_cons_self)⟩

theorem trimStart_padded (width n : Nat) (rest : List Char) :
    Text.trimStart (padded width n ++ rest) = padded width n ++ rest := by
  obtain ⟨c, cs, hcs, hdigit⟩ := padded_begins width n
  rw [hcs]
  exact Text.trimStart_of_not_isBlank (Text.not_isBlank_of_isDigit hdigit)

/-- **A number of a fixed width is read back**, whatever follows it. -/
theorem number?_padded {width n : Nat} (hwidth : 0 < width) (hn : n < 10 ^ width) :
    number? width (padded width n ++ rest) = some (n, rest) := by
  have hlength := Text.length_padded hwidth hn
  have htake : (padded width n ++ rest).take width = padded width n ++ [] := by
    rw [List.take_left' hlength, List.append_nil]
  have hrun : (padded width n ++ []).takeWhile Char.isDigit = padded width n :=
    Text.takeWhile_append_run (fun c hc => Text.isDigit_of_mem_padded hc) (by simp)
  have hdrop : (padded width n ++ rest).drop (padded width n).length = rest := List.drop_left
  simp only [number?, trimStart_padded, htake, hrun, hdrop, Text.ofDigitChars_padded]
  rw [if_neg (by simp [Text.padded_ne_nil])]

theorem number?_blank (most : Nat) (cs : List Char) : number? most (' ' :: cs) = number? most cs :=
  rfl

theorem signed?_padded (negative : Bool) (n : Nat) (hrest : ∀ c ∈ rest.head?, c.isDigit = false) :
    signed? negative (padded 4 n ++ rest) = some (if negative then -(n : Int) else n, rest) := by
  rw [signed?, Text.run?_append (Text.padded_ne_nil 4 n)
    (fun c hc => Text.isDigit_of_mem_padded hc) hrest]
  simp only [Option.map_some, Text.ofDigitChars_padded]

/-- **A year is read back.** -/
theorem year?_yearChars (year : Int) (hrest : ∀ c ∈ rest.head?, c.isDigit = false) :
    year? (yearChars year ++ rest) = some (year, rest) := by
  unfold yearChars
  dsimp only
  split
  · next hnegative =>
    have hsign : year? (('-' :: padded 4 year.natAbs) ++ rest) =
        signed? true (padded 4 year.natAbs ++ rest) := rfl
    rw [hsign, signed?_padded true _ hrest, if_pos rfl]
    exact congrArg (fun y => some (y, rest)) (by omega)
  split
  · next hlong =>
    have hsign : year? (('+' :: padded 4 year.natAbs) ++ rest) =
        signed? false (padded 4 year.natAbs ++ rest) := rfl
    rw [hsign, signed?_padded false _ hrest, if_neg (by decide)]
    exact congrArg (fun y => some (y, rest)) (by omega)
  · have hnumber : number? 4 (padded 4 year.natAbs ++ rest) = some (year.natAbs, rest) :=
      number?_padded (by decide) (by omega)
    have hsame : (year.natAbs : Int) = year := by omega
    obtain ⟨c, cs, hcs, hdigit⟩ := padded_begins 4 year.natAbs
    rw [year?, trimStart_padded]
    rw [hcs, List.cons_append] at hnumber ⊢
    split
    · next h => exact absurd ((List.cons.inj h).1 ▸ hdigit) (by decide)
    · next h => exact absurd ((List.cons.inj h).1 ▸ hdigit) (by decide)
    · rw [hnumber]
      exact congrArg (fun y => some (y, rest)) hsame

/-- Six decimals are microseconds. -/
theorem fraction?_padded {n : Nat} (hn : n < 1000000) :
    fraction? ('.' :: padded 6 n) = some (n * 1000, []) := by
  have hlength := Text.length_padded (by decide : 0 < 6) hn
  have hrun : Text.run? Char.isDigit (padded 6 n ++ []) = some (padded 6 n, []) :=
    Text.run?_append (Text.padded_ne_nil 6 n) (fun c hc => Text.isDigit_of_mem_padded hc) (by simp)
  have htake : (padded 6 n).take 9 = padded 6 n := List.take_of_length_le (by omega)
  rw [List.append_nil] at hrun
  simp only [fraction?, hrun, Option.map_some, htake, Text.ofDigitChars_padded, hlength]

/-! ## The whole text -/

theorem yearChars_begins (year : Int) :
    ∃ c cs, yearChars year = c :: cs ∧ Text.isBlank c = false := by
  unfold yearChars
  dsimp only
  split
  · exact ⟨'-', _, rfl, rfl⟩
  split
  · exact ⟨'+', _, rfl, rfl⟩
  · obtain ⟨c, cs, hcs, hdigit⟩ := padded_begins 4 year.natAbs
    exact ⟨c, cs, hcs, Text.not_isBlank_of_isDigit hdigit⟩

/-- Trimming leaves the text of an instant as it is. -/
theorem trim_chars (t : Instant) : Text.trim (chars t) = chars t := by
  refine Text.trim_eq_self (fun c hc => ?_) fun c hc => ?_
  · obtain ⟨first, cs, hcs, hblank⟩ := yearChars_begins t.date.year
    rw [chars, hcs] at hc
    exact Option.some.inj hc ▸ hblank
  · obtain ⟨front, hfront⟩ : ∃ front, chars t = front ++ padded 6 (t.clock.fraction / 1000) :=
      ⟨yearChars t.date.year ++ '-' :: (padded 2 t.date.month ++ '-' :: (padded 2 t.date.day ++
        ' ' :: (padded 2 t.clock.hour ++ ':' :: (padded 2 t.clock.minute ++
        ':' :: (padded 2 t.clock.writtenSecond ++ ['.']))))), by simp [chars]⟩
    rw [hfront, List.getLast?_append_of_ne_nil _ (Text.padded_ne_nil _ _)] at hc
    exact Text.not_isBlank_of_isDigit (Text.isDigit_of_mem_padded (List.mem_of_mem_getLast? hc))

/-- **What is read where an instant was written.** -/
theorem ofChars?_chars (t : Instant) : ofChars? (chars t) = some t.reread := by
  obtain ⟨date, clock⟩ := t
  have hdays := daysInMonth_le date.year date.month
  have hmonth := date.month_mem
  have hday := date.day_mem
  have hlt := clock.hour_lt
  have hminute := clock.minute_lt
  have hsecond : clock.writtenSecond < 100 := by
    have := clock.second_lt
    have := clock.nanos_lt
    unfold Clock.writtenSecond
    omega
  have hfraction : clock.fraction / 1000 < 1000000 := by
    unfold Clock.fraction
    omega
  have hyear : ∀ rest, year? (yearChars date.year ++ '-' :: rest) = some (date.year, '-' :: rest) :=
    fun rest => year?_yearChars date.year (by simp)
  have hnumber : ∀ {n : Nat} (rest : List Char), n < 100 →
      number? 2 (padded 2 n ++ rest) = some (n, rest) :=
    fun rest hn => number?_padded (by decide) hn
  have hafter : ∀ (c : Char) (rest : List Char), after? c (c :: rest) = some rest :=
    fun c rest => if_pos rfl
  have hhour : ∀ rest, number? 2 (' ' :: (padded 2 clock.hour ++ rest)) =
      some (clock.hour, rest) :=
    fun rest => (number?_blank 2 _).trans (hnumber rest (by omega))
  rw [ofChars?, trim_chars, chars]
  -- one part after the other is taken off the front
  refine Option.bind_eq_some_iff.2 ⟨_, hyear _, ?_⟩
  refine Option.bind_eq_some_iff.2 ⟨_, hafter _ _, ?_⟩
  refine Option.bind_eq_some_iff.2 ⟨_, hnumber (n := date.month) _ (by omega), ?_⟩
  refine Option.bind_eq_some_iff.2 ⟨_, hafter _ _, ?_⟩
  refine Option.bind_eq_some_iff.2 ⟨_, hnumber (n := date.day) _ (by omega), ?_⟩
  refine Option.bind_eq_some_iff.2 ⟨_, hhour _, ?_⟩
  refine Option.bind_eq_some_iff.2 ⟨_, hafter _ _, ?_⟩
  refine Option.bind_eq_some_iff.2 ⟨_, hnumber (n := clock.minute) _ (by omega), ?_⟩
  refine Option.bind_eq_some_iff.2 ⟨_, hafter _ _, ?_⟩
  refine Option.bind_eq_some_iff.2 ⟨_, hnumber _ hsecond, ?_⟩
  refine Option.bind_eq_some_iff.2 ⟨_, fraction?_padded hfraction, ?_⟩
  dsimp only
  rw [if_pos List.isEmpty_nil]
  refine Option.bind_eq_some_iff.2 ⟨_, Date.of?_eq_some_iff.2 ⟨rfl, rfl, rfl⟩, ?_⟩
  exact Option.bind_eq_some_iff.2 ⟨_, clock.written?_writtenSecond, rfl⟩

theorem ofText?_text (t : Instant) : ofText? (text t) = some t.reread := by
  rw [ofText?, text, String.toList_ofList, ofChars?_chars]

end Timestamp

end KeaGauge.Calendar
