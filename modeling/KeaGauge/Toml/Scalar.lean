import KeaGauge.Toml.Value
import KeaGauge.Calendar.Instant
import KeaGauge.Text.Numeral
import KeaGauge.Text.Reader
/-!
# Numbers, truth values and points in time

The values of TOML that are written without quotes or brackets. Each is the
longest run of the characters such values are made of; the one exception is a
date and a time with a space between them.
-/

namespace KeaGauge.Toml

open Text (Reader)

/-- The characters that numbers, truth values and points in time are made
of. -/
def isScalarChar (c : Char) : Bool :=
  c.isAlphanum || c = '_' || c = '+' || c = '-' || c = '.' || c = ':'

/-! ## Numbers -/

/-- The digits of a run in which single underscores may stand between
digits. -/
def digits? (base : Nat) (cs : List Char) : Option (List Char) :=
  let groups := cs.splitOn '_'
  if groups.all (fun g => !g.isEmpty && g.all (Text.isDigitIn base)) then some groups.flatten
  else none

/-- Whether the characters are digits without a leading zero. -/
def isWhole (digits : List Char) : Bool :=
  digits.length = 1 || digits.head? ≠ some '0'

/-- The sign at the front, and what follows it. -/
def sign : List Char → Bool × List Char
  | '-' :: rest => (true, rest)
  | '+' :: rest => (false, rest)
  | cs => (false, cs)

/-- An integer in the range of 64 bits with a sign. -/
def bounded? (n : Int) : Option Int :=
  if -0x8000000000000000 ≤ n ∧ n < 0x8000000000000000 then some n else none

/-- An integer in a base, or in decimal digits with a possible sign. -/
def integer? (cs : List Char) : Option Int :=
  match cs with
  | '0' :: 'x' :: rest => inBase 16 rest
  | '0' :: 'o' :: rest => inBase 8 rest
  | '0' :: 'b' :: rest => inBase 2 rest
  | cs => do
    let (negative, cs) := sign cs
    let digits ← digits? 10 cs
    let n : Int := Text.ofDigits 10 digits
    if isWhole digits then bounded? (if negative then -n else n) else none
where
  /-- An integer without a sign. -/
  inBase (base : Nat) (cs : List Char) : Option Int :=
    (digits? base cs).bind fun digits => bounded? (Text.ofDigits base digits)

/-- Half the distance beyond the largest number of 64 bits: what is not below
it is no number. -/
def floatBound : Nat := Nat.pow 2 1024 - Nat.pow 2 970

/-- Whether `n · 10 ^ e` is below the bound of the numbers. -/
def isBelowBound (n : Nat) (e : Int) : Bool :=
  let digits : Int := (Nat.toDigits 10 n).length
  if n = 0 ∨ digits + e < 300 then true
  else if 320 < digits + e then false
  else if e < 0 then n < floatBound * Nat.pow 10 e.natAbs
  else n * Nat.pow 10 e.natAbs < floatBound

/-- The exponent of a number: digits with a possible sign. -/
def exponent? (cs : List Char) : Option Int := do
  let (negative, cs) := sign cs
  let n : Int := Text.ofDigits 10 (← digits? 10 cs)
  return if negative then -n else n

/-- Whether the characters are a number with a fraction, an exponent or
both, and not too large. -/
def isDecimal (cs : List Char) : Bool :=
  let (negative, cs) := sign cs
  let isMark (c : Char) : Bool := c = 'e' || c = 'E'
  let written := cs.takeWhile fun c => !isMark c
  let whole := written.takeWhile (· ≠ '.')
  let fraction? := match written.dropWhile (· ≠ '.') with
    | [] => some []
    | _ :: digits => digits? 10 digits
  let power? := match cs.dropWhile fun c => !isMark c with
    | [] => some 0
    | _ :: power => exponent? power
  match digits? 10 whole, fraction?, power? with
  | some whole, some fraction, some power =>
    isWhole whole && (written.contains '.' || cs.any isMark)
      && (negative || isBelowBound (Text.ofDigits 10 (whole ++ fraction)) (power - fraction.length))
  | _, _, _ => false

/-- Whether the characters are the name of a number that is not finite. -/
def isNotFinite (cs : List Char) : Bool :=
  let name := (sign cs).2
  name = ['i', 'n', 'f'] || name = ['n', 'a', 'n']

/-! ## Points in time -/

/-- A number of exactly so many digits. -/
def fixed? (count : Nat) : Reader Nat := fun cs =>
  let digits := cs.take count
  if digits.length = count ∧ digits.all Char.isDigit then
    some (Text.ofDigits 10 digits, cs.drop count)
  else none

/-- What follows a date that exists. -/
def afterDate? (cs : List Char) : Option (List Char) := do
  let (year, cs) ← fixed? 4 cs
  let (month, cs) ← fixed? 2 (← Text.after? '-' cs)
  let (day, cs) ← fixed? 2 (← Text.after? '-' cs)
  if (Calendar.Date.of? year month day).isSome then some cs else none

/-- What follows the fraction of a second, if there is one. -/
def afterFraction? : List Char → Option (List Char)
  | '.' :: rest => (Text.run? Char.isDigit rest).map (·.2)
  | cs => some cs

/-- What follows a time of day. A second 60 is admitted. -/
def afterTime? (cs : List Char) : Option (List Char) := do
  let (hour, cs) ← fixed? 2 cs
  let (minute, cs) ← fixed? 2 (← Text.after? ':' cs)
  let (second, cs) ← fixed? 2 (← Text.after? ':' cs)
  if hour < 24 ∧ minute < 60 ∧ second ≤ 60 then afterFraction? cs else none

/-- Whether the characters are an offset from UTC, or nothing. -/
def isOffset : List Char → Bool
  | [] | ['Z'] | ['z'] => true
  | c :: rest =>
    let minutes? := do
      let (hour, cs) ← fixed? 2 rest
      let (minute, cs) ← fixed? 2 (← Text.after? ':' cs)
      if hour < 24 ∧ minute < 60 ∧ cs.isEmpty then some () else none
    (c = '+' || c = '-') && minutes?.isSome

/-- Whether the characters are a time of day with a possible offset. -/
def isClock (cs : List Char) : Bool :=
  match afterTime? cs with
  | some rest => isOffset rest
  | none => false

/-- Whether the characters are a date, a time of day, or a date and a time
with a letter between them. -/
def isMoment (cs : List Char) : Bool :=
  match afterDate? cs with
  | some [] => true
  | some (c :: rest) => (c = 'T' || c = 't') && isClock rest
  | none => afterTime? cs = some []

/-! ## Scalars -/

/-- The value that a run of characters is. -/
def ofRun? (cs : List Char) : Option Value :=
  if cs = ['t', 'r', 'u', 'e'] then some (.boolean true)
  else if cs = ['f', 'a', 'l', 's', 'e'] then some (.boolean false)
  else
    match integer? cs with
    | some n => some (.integer n)
    | none =>
      if isDecimal cs ∨ isNotFinite cs then some (.float (String.ofList cs))
      else if isMoment cs then some (.moment (String.ofList cs))
      else none

/-- The time that follows a date and one space, with what follows it. -/
def timeBehind? (run rest : List Char) : Option (List Char × List Char) :=
  match rest with
  | ' ' :: rest =>
    let time := rest.takeWhile isScalarChar
    if afterDate? run = some [] ∧ isClock time then
      some (run ++ ' ' :: time, rest.dropWhile isScalarChar)
    else none
  | _ => none

/-- A value written without quotes or brackets. -/
def scalar? : Reader Value := fun cs => do
  let (run, rest) ← Text.run? isScalarChar cs
  match timeBehind? run rest with
  | some (run, rest) => return (.moment (String.ofList run), rest)
  | none => return (← ofRun? run, rest)

end KeaGauge.Toml
