import KeaGauge.Calendar.Instant
import KeaGauge.Text.Blank
import KeaGauge.Text.Numeral
/-!
# Timestamps

The text form of an instant, such as `2019-07-30 10:04:28.386733`. Writing
gives six decimals, cut off and not rounded. Reading is lenient about blanks:
they may stand around the whole, in front of every number, and between date
and time, where they may also be absent.
-/

namespace KeaGauge.Calendar.Timestamp

open Text (Reader after?)

/-! ## Writing -/

/-- A year: four digits, and a sign where four digits are not enough or the
year is negative. -/
def yearChars (year : Int) : List Char :=
  let digits := Text.padded 4 year.natAbs
  if year < 0 then '-' :: digits
  else if 9999 < year then '+' :: digits
  else digits

/-- The text of an instant. -/
def chars (t : Instant) : List Char :=
  yearChars t.date.year ++ '-' :: (Text.padded 2 t.date.month
    ++ '-' :: (Text.padded 2 t.date.day
    ++ ' ' :: (Text.padded 2 t.clock.hour
    ++ ':' :: (Text.padded 2 t.clock.minute
    ++ ':' :: (Text.padded 2 t.clock.writtenSecond
    ++ '.' :: Text.padded 6 (t.clock.fraction / 1000))))))

/-- The text of an instant. -/
def text (t : Instant) : String := String.ofList (chars t)

/-! ## Reading -/

/-- A number of one digit or more behind possible blanks. No more than `most`
digits are taken. -/
def number? (most : Nat) : Reader Nat := fun cs =>
  let cs := Text.trimStart cs
  let run := (cs.take most).takeWhile Char.isDigit
  if run.isEmpty then none else some (Nat.ofDigitChars 10 run 0, cs.drop run.length)

/-- A number behind a sign, of as many digits as there are, the first of
them right behind the sign. -/
def signed? (negative : Bool) : Reader Int := fun cs =>
  (Text.run? Char.isDigit cs).map fun (run, rest) =>
    let n : Int := Nat.ofDigitChars 10 run 0
    (if negative then -n else n, rest)

/-- A year: at most four digits, or any number of them behind a sign. -/
def year? : Reader Int := fun cs =>
  match Text.trimStart cs with
  | '-' :: rest => signed? true rest
  | '+' :: rest => signed? false rest
  | cs => (number? 4 cs).map fun (n, rest) => ((n : Int), rest)

/-- The nanoseconds that decimals name; those beyond the ninth are passed
over. Without a point there are none. -/
def fraction? : Reader Nat
  | '.' :: cs =>
    (Text.run? Char.isDigit cs).map fun (run, rest) =>
      let shown := run.take 9
      (Nat.ofDigitChars 10 shown 0 * Nat.pow 10 (9 - shown.length), rest)
  | cs => some (0, cs)

/-- **The instant that a timestamp names.** -/
def ofChars? (cs : List Char) : Option Instant := do
  let (year, cs) ← year? (Text.trim cs)
  let (month, cs) ← number? 2 (← after? '-' cs)
  let (day, cs) ← number? 2 (← after? '-' cs)
  let (hour, cs) ← number? 2 cs
  let (minute, cs) ← number? 2 (← after? ':' cs)
  let (second, cs) ← number? 2 (← after? ':' cs)
  let (nanos, cs) ← fraction? cs
  if cs.isEmpty then
    return ⟨← Date.of? year month day, ← Clock.written? hour minute second nanos⟩
  else none

/-- The instant that a timestamp names. -/
def ofText? (s : String) : Option Instant := ofChars? s.toList

end KeaGauge.Calendar.Timestamp
